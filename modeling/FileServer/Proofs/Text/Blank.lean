import FileServer.Text.Blank

/-!
# Trimmed lines and first words

What trimming and splitting do to a text whose parts are known: blanks at the end go
(`trimEnd_append_blanks`), nothing before a character that is not blank does
(`trimEnd_append_cons`), the words on both sides of a blank are apart (`words_append_cons`), and
trimming leaves the words (`words_trim`).
-/

namespace FileServer.Text

variable {cs ds word : List Char} {c blank : Char}

/-- That no character is a blank can be computed. -/
theorem not_isBlank_of_any (h : cs.any isBlank = false) : ∀ c ∈ cs, isBlank c = false := by
  intro c hc
  rw [← Bool.not_eq_true]
  exact List.any_eq_false.1 h c hc

/-- Blanks at the end are trimmed away. -/
theorem trimEnd_append_blanks (h : ∀ c ∈ ds, isBlank c = true) :
    trimEnd (cs ++ ds) = trimEnd cs := by
  have hback : ∀ c ∈ ds.reverse, isBlank c = true := fun c hc => h c (List.mem_reverse.1 hc)
  rw [trimEnd, trimEnd, List.reverse_append, List.dropWhile_append_of_pos hback]

/-- Trimming the end stops at what is not blank. -/
theorem trimEnd_append_cons (h : isBlank c = false) (cs ds : List Char) :
    trimEnd (cs ++ c :: ds) = cs ++ c :: trimEnd ds := by
  have hstop : (c :: cs.reverse).dropWhile isBlank = c :: cs.reverse :=
    List.dropWhile_cons_of_neg (by simp [h])
  rw [trimEnd, trimEnd, List.reverse_append, List.reverse_cons, List.append_assoc,
    List.singleton_append, List.dropWhile_append, hstop]
  split
  · rename_i hempty
    rw [List.isEmpty_iff.1 hempty]
    simp
  · simp

/-- Trimming adds nothing. -/
theorem mem_of_mem_trimEnd (h : c ∈ trimEnd cs) : c ∈ cs := by
  rw [trimEnd, List.mem_reverse] at h
  exact List.mem_reverse.1 ((List.dropWhile_sublist _).subset h)

/-- A text that ends in something else than a blank is trimmed at its end. -/
theorem trimEnd_eq_self (hne : cs ≠ []) (hlast : isBlank (cs.getLast hne) = false) :
    trimEnd cs = cs := by
  rw [← List.dropLast_concat_getLast hne, trimEnd_append_cons hlast]
  rfl

/-- A word is what is left of a word with a space before it. -/
theorem trim_space_cons (hword : ∀ c ∈ word, isBlank c = false) (hne : word ≠ []) :
    trim (trimEnd (' ' :: word)) = word := by
  have hend : trimEnd (' ' :: word) = ' ' :: word := by
    apply trimEnd_eq_self (List.cons_ne_nil _ _)
    rw [List.getLast_cons hne]
    exact hword _ (List.getLast_mem hne)
  obtain ⟨c, rest, rfl⟩ := List.exists_cons_of_ne_nil hne
  have hfirst : ¬isBlank c = true := by simp [hword c List.mem_cons_self]
  have hspace : isBlank ' ' = true := by decide
  rw [hend, trim, hend, trimStart, List.dropWhile_cons_of_pos hspace,
    List.dropWhile_cons_of_neg hfirst]

/-! ### Words -/

/-- A blank ends a word that was begun. -/
theorem wordsFrom_append_cons (hblank : isBlank blank = true) (begun cs ds : List Char) :
    wordsFrom begun (cs ++ blank :: ds) = wordsFrom begun cs ++ words ds := by
  induction cs generalizing begun with
  | nil =>
      rw [List.nil_append, wordsFrom, wordsFrom, if_pos hblank]
      split <;> rfl
  | cons c cs ih =>
      rw [List.cons_append, wordsFrom, wordsFrom]
      split
      · split
        · exact ih []
        · rw [ih [], List.cons_append]
      · exact ih (c :: begun)

/-- The words on both sides of a blank. -/
theorem words_append_cons (hblank : isBlank blank = true) (cs ds : List Char) :
    words (cs ++ blank :: ds) = words cs ++ words ds :=
  wordsFrom_append_cons hblank [] cs ds

/-- Blanks in front of a text add no word. -/
theorem words_blanks_append (h : ∀ c ∈ cs, isBlank c = true) (ds : List Char) :
    words (cs ++ ds) = words ds := by
  induction cs with
  | nil => rfl
  | cons c cs ih =>
      have hfirst := words_append_cons (h c List.mem_cons_self) [] (cs ++ ds)
      exact hfirst.trans (ih fun d hd => h d (List.mem_cons_of_mem _ hd))

/-- Blanks behind a text add no word. -/
theorem words_append_blanks (h : ∀ c ∈ ds, isBlank c = true) (cs : List Char) :
    words (cs ++ ds) = words cs := by
  rcases ds with _ | ⟨d, ds⟩
  · rw [List.append_nil]
  · have hnone := words_blanks_append (fun c hc => h c (List.mem_cons_of_mem _ hc)) []
    rw [List.append_nil] at hnone
    rw [words_append_cons (h d List.mem_cons_self), hnone]
    exact List.append_nil _

/-- Trimming a text leaves its words. -/
theorem words_trim (cs : List Char) : words (trim cs) = words cs := by
  have hblank : ∀ ds : List Char, ∀ c ∈ ds.takeWhile isBlank, isBlank c = true :=
    fun ds => List.all_eq_true.1 List.all_takeWhile
  have hfront : words (trimStart (trimEnd cs)) = words (trimEnd cs) := by
    rw [trimStart, ← words_blanks_append (hblank (trimEnd cs)), List.takeWhile_append_dropWhile]
  have hback : trimEnd cs ++ (cs.reverse.takeWhile isBlank).reverse = cs := by
    rw [trimEnd, ← List.reverse_append, List.takeWhile_append_dropWhile, List.reverse_reverse]
  have hend := words_append_blanks (fun c hc => hblank cs.reverse c (List.mem_reverse.1 hc))
    (trimEnd cs)
  rw [trim, hfront, ← hend, hback]

/-- Without a blank, a word that was begun goes on to the end. -/
theorem wordsFrom_of_not_isBlank (h : ∀ c ∈ word, isBlank c = false) (begun : List Char)
    (hne : begun.reverse ++ word ≠ []) : wordsFrom begun word = [begun.reverse ++ word] := by
  induction word generalizing begun with
  | nil =>
      have hbegun : begun.isEmpty = false := by simpa using hne
      rw [wordsFrom, hbegun, if_neg Bool.false_ne_true, List.append_nil]
  | cons c word ih =>
      have hrest : ∀ d ∈ word, isBlank d = false := fun d hd => h d (List.mem_cons_of_mem _ hd)
      rw [wordsFrom, if_neg (by simp [h c List.mem_cons_self]), ih hrest (c :: begun) (by simp),
        List.reverse_cons, List.append_assoc, List.singleton_append]

/-- A text without blanks is one word. -/
theorem words_of_not_isBlank (h : ∀ c ∈ word, isBlank c = false) (hne : word ≠ []) :
    words word = [word] :=
  wordsFrom_of_not_isBlank h [] hne

/-- **A word in front of a blank** is the first word. -/
theorem words_append_blank (hword : ∀ c ∈ word, isBlank c = false) (hne : word ≠ [])
    (hblank : isBlank blank = true) (rest : List Char) :
    words (word ++ blank :: rest) = word :: words rest := by
  rw [words_append_cons hblank, words_of_not_isBlank hword hne, List.singleton_append]

/-- Words have no blanks in them. -/
theorem not_isBlank_of_mem_wordsFrom {begun : List Char} (hbegun : ∀ c ∈ begun, isBlank c = false)
    (h : word ∈ wordsFrom begun cs) : ∀ c ∈ word, isBlank c = false := by
  have hback : ∀ c ∈ begun.reverse, isBlank c = false :=
    fun c hc => hbegun c (List.mem_reverse.1 hc)
  induction cs generalizing begun with
  | nil =>
      rw [wordsFrom] at h
      split at h
      · cases h
      · rwa [List.mem_singleton.1 h]
  | cons c cs ih =>
      have hnone : ∀ d ∈ ([] : List Char), isBlank d = false := by simp
      rw [wordsFrom] at h
      split at h
      · split at h
        · exact ih hnone h hnone
        · rcases List.mem_cons.1 h with rfl | hlater
          · exact hback
          · exact ih hnone hlater hnone
      · rename_i hc
        have hmore : ∀ d ∈ c :: begun, isBlank d = false := by
          intro d hd
          rcases List.mem_cons.1 hd with rfl | hold
          · simpa using hc
          · exact hbegun d hold
        exact ih hmore h fun d hd => hmore d (List.mem_reverse.1 hd)

/-- There is no blank in a word. -/
theorem not_isBlank_of_mem_words (h : word ∈ words cs) : ∀ c ∈ word, isBlank c = false :=
  not_isBlank_of_mem_wordsFrom (by simp) h

end FileServer.Text
