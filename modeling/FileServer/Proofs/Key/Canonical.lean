import FileServer.Proofs.Key.Grammar
import FileServer.Proofs.Text.Blank

/-!
# One key for one path

What is cached under a key is found again under it, so it matters when two lines have the same key.
A line that is accepted names a path: the names that are joined to the root (`Grammar.names?`). The
key is made of the root and these names, and they can be read off it again, so two lines have one
key exactly if they give the same names.

The names can be written on a line in their own right, behind a slash and with slashes between them.
This is a line for the same path, and it stays one when blanks are put around it, a query or a
fragment behind it, or when it becomes the second word of a request (`Grammar.Spells`). That all of
these are read alike rests on what a name cannot hold: no blank, since a path ends at one; no
question mark and no number sign, since it is cut there; no slash and no NUL.
-/

namespace FileServer

namespace Key

variable {line path word query rel : List Char}

/-! ### The path on a line -/

/-- The first word that begins with a slash is the path, also if it is the only word. -/
theorem path?_of_find
    (h : (Text.words line).find? (fun token => token.head? = some '/') = some word) :
    Grammar.path? line = some word := by
  have hpath : pathOfLine line = .ok word := by
    rw [← Text.words_trim] at h
    unfold pathOfLine
    simp only
    split
    · rw [h]
    · rename_i hblank
      have hnot : ∀ c ∈ Text.trim line, Text.isBlank c = false := by
        intro c hc
        simpa using fun hc' => hblank (List.any_eq_true.2 ⟨c, hc, hc'⟩)
      by_cases hnone : Text.trim line = []
      · rw [hnone] at h
        cases h
      · rw [Text.words_of_not_isBlank hnot hnone, List.find?_singleton] at h
        split at h
        · rw [Option.some.inj h]
        · cases h
  rw [pathOfLine_eq] at hpath
  split at hpath
  · rename_i path hfound
    rw [hfound, Except.ok.inj hpath]
  · cases hpath

/-- There is no blank in a path. -/
theorem not_isBlank_of_path? (h : Grammar.path? line = some path) :
    ∀ c ∈ path, Text.isBlank c = false := by
  have hpath := pathOfLine_eq line
  rw [h] at hpath
  unfold pathOfLine at hpath
  simp only at hpath
  split at hpath
  · split at hpath
    · rename_i word hword
      obtain rfl := Except.ok.inj hpath
      exact Text.not_isBlank_of_mem_words (List.mem_of_find?_eq_some hword)
    · cases hpath
  · rename_i hblank
    obtain rfl := Except.ok.inj hpath
    intro c hc
    simpa using fun hc' => hblank (List.any_eq_true.2 ⟨c, hc, hc'⟩)

namespace Grammar

/-! ### The names that a line gives -/

/-- What an accepted line joins to the root: nothing if there is no path on it, or if the path is
refused. -/
def names? (line : List Char) : Option (List (List Char)) :=
  (path? line).bind fun path =>
    if (cut path).contains '\x00' || (segments (cut path)).contains ['.', '.'] then none
    else some (names (cut path))

/-- A name that can be written on a line. -/
structure IsPlain (name : List Char) : Prop extends IsSegment name where
  /-- A path ends at a blank. -/
  blank_notMem : ∀ c ∈ name, Text.isBlank c = false
  /-- A query begins at a question mark. -/
  question_notMem : '?' ∉ name
  /-- A fragment begins at a number sign. -/
  number_notMem : '#' ∉ name
  /-- A NUL is refused. -/
  nul_notMem : '\x00' ∉ name

variable {names : List (List Char)} {name : List Char} {root text key : String}

/-- The key of a line is the root with the names joined to it. -/
theorem key_eq_ok_iff : Grammar.key root text = .ok key ↔
    ∃ names, names? text.toList = some names ∧ key = under root names := by
  unfold Grammar.key names?
  rcases path? text.toList with _ | path
  · simp
  · simp only [Option.bind_some, Bool.or_eq_true, List.contains_iff_mem]
    by_cases hnul : '\x00' ∈ cut path
    · simp [hnul]
    · by_cases hup : ['.', '.'] ∈ segments (cut path)
      · simp [hnul, hup]
      · simp [hnul, hup, eq_comm]

/-- What is left of a path has neither query nor fragment in it. -/
theorem mem_cut {c : Char} (h : c ∈ cut path) : c ∈ path ∧ c ≠ '?' ∧ c ≠ '#' := by
  rw [← withoutQuery_eq] at h
  have hstop := List.mem_takeWhile_imp h
  simp only [Bool.and_eq_true, decide_eq_true_eq] at hstop
  exact ⟨(List.takeWhile_sublist _).subset h, hstop⟩

/-- **A line gives plain names**, at least one. -/
theorem isPlain_of_names? (h : names? line = some names) :
    names ≠ [] ∧ ∀ name ∈ names, IsPlain name := by
  obtain ⟨path, hpath, hnames⟩ := Option.bind_eq_some_iff.1 h
  split at hnames
  · cases hnames
  · rename_i haccepted
    simp only [Bool.or_eq_true, List.contains_iff_mem, not_or] at haccepted
    obtain rfl := Option.some.inj hnames
    refine ⟨names_ne_nil _, ?_⟩
    intro name hname
    have hblank := not_isBlank_of_path? hpath
    have hmem : ∀ c ∈ name, c ∈ cut path ∨ c ∈ indexName.toList :=
      fun c hc => mem_of_mem_names hname hc
    refine ⟨isSegment_of_mem_names hname haccepted.2, ?_, ?_, ?_, ?_⟩
    · intro c hc
      rcases hmem c hc with hcut | hindex
      · exact hblank c (mem_cut hcut).1
      · exact Text.not_isBlank_of_any (by decide +kernel) c hindex
    · intro hc
      rcases hmem _ hc with hcut | hindex
      · exact (mem_cut hcut).2.1 rfl
      · exact absurd hindex (by decide)
    · intro hc
      rcases hmem _ hc with hcut | hindex
      · exact (mem_cut hcut).2.2 rfl
      · exact absurd hindex (by decide)
    · exact nul_notMem_of_mem_names hname haccepted.1

/-! ### Names behind a slash -/

/-- Names with slashes between them. -/
def joined (names : List (List Char)) : List Char := ['/'].intercalate names

/-- Joined names have no character that none of them has, but for slashes. -/
theorem mem_joined {c : Char} (h : c ∈ joined names) : c = '/' ∨ ∃ name ∈ names, c ∈ name := by
  induction names with
  | nil => cases h
  | cons name rest ih =>
      rcases rest with _ | ⟨next, others⟩
      · rw [joined, List.intercalate_singleton] at h
        exact Or.inr ⟨name, List.mem_cons_self, h⟩
      · rw [joined, List.intercalate_cons_cons] at h
        rcases List.mem_append.1 h with hfirst | hlater
        · rcases List.mem_append.1 hfirst with hname | hslash
          · exact Or.inr ⟨name, List.mem_cons_self, hname⟩
          · exact Or.inl (List.mem_singleton.1 hslash)
        · rcases ih hlater with hslash | ⟨other, hother, hc⟩
          · exact Or.inl hslash
          · exact Or.inr ⟨other, List.mem_cons_of_mem _ hother, hc⟩

/-- Joined names are split again. -/
theorem splitOn_joined (hne : names ≠ []) (h : ∀ name ∈ names, IsSegment name) :
    (joined names).splitOn '/' = names :=
  List.splitOn_intercalate '/' (fun name hname => (h name hname).slash_notMem) hne

/-- The names of a path that is made of names are these names. -/
theorem names_joined (hne : names ≠ []) (h : ∀ name ∈ names, IsSegment name) :
    Grammar.names ('/' :: joined names) = names := by
  have hsplit := splitOn_joined hne h
  have hsegments : segments ('/' :: joined names) = names := by
    rw [segments, List.splitOn_cons_eq_if_modifyHead, if_pos (beq_self_eq_true _), hsplit,
      List.filter_cons_of_neg (by simp [Leads])]
    apply List.filter_eq_self.2
    intro name hname
    have hleads : Leads name := ⟨(h name hname).ne_nil, (h name hname).ne_dot⟩
    simpa using hleads
  have hlast : ('/' :: joined names).getLast? ≠ some '/' := by
    intro hslash
    obtain ⟨front, hfront⟩ := List.getLast?_eq_some_iff.1 hslash
    -- a slash at the end has an empty stretch behind it, and there would be an empty name
    have hempty : [] ∈ (joined names).splitOn '/' := by
      rcases front with _ | ⟨c, front⟩
      · have hnil : joined names = [] := (List.cons.inj hfront).2
        rw [hnil, List.splitOn_nil]
        exact List.mem_singleton_self _
      · have htail : joined names = front ++ '/' :: [] := (List.cons.inj hfront).2
        rw [htail, List.splitOn, List.splitOnP_append_cons _ _ (by simp)]
        exact List.mem_append_right _ (List.mem_singleton_self _)
    rw [hsplit] at hempty
    exact (h [] hempty).ne_nil rfl
  rw [Grammar.names, hsegments, if_neg (not_or.2 ⟨hne, hlast⟩), List.append_nil]

/-- **Names can be read off a key.** -/
theorem under_injective {others : List (List Char)} (hne : names ≠ [])
    (hnames : ∀ name ∈ names, IsSegment name) (hne' : others ≠ [])
    (hothers : ∀ name ∈ others, IsSegment name) (h : under root names = under root others) :
    names = others := by
  have hchars := congrArg String.toList h
  simp only [under, String.toList_ofList] at hchars
  have hjoined : joined names = joined others := List.append_cancel_left hchars
  rw [← splitOn_joined hne hnames, hjoined, splitOn_joined hne' hothers]

/-! ### Spellings -/

/-- What can stand behind a path: nothing, or a query or a fragment in which there is no blank. -/
structure IsTail (tail : List Char) : Prop where
  /-- It begins with a question mark or a number sign. -/
  begins : ∀ c ∈ tail.head?, c = '?' ∨ c = '#'
  /-- It ends at a blank. -/
  blank_notMem : ∀ c ∈ tail, Text.isBlank c = false

/-- The lines on which joined names stand as a path. -/
inductive Spells (rel : List Char) : List Char → Prop where
  /-- The path by itself, with blanks around it; a carriage return is one. -/
  | bare {before tail after : List Char} (hbefore : ∀ c ∈ before, Text.isBlank c = true)
      (htail : IsTail tail) (hafter : ∀ c ∈ after, Text.isBlank c = true) :
      Spells rel (before ++ ('/' :: rel ++ tail ++ after))
  /-- A request: a method, the path, and anything behind it. -/
  | request {before method tail version : List Char}
      (hbefore : ∀ c ∈ before, Text.isBlank c = true)
      (hmethod : ∀ c ∈ method, Text.isBlank c = false) (hslash : method.head? ≠ some '/')
      (htail : IsTail tail) :
      Spells rel (before ++ (method ++ ' ' :: ('/' :: rel ++ tail ++ ' ' :: version)))

/-- A query is cut off. -/
theorem cut_append {tail : List Char} (hquestion : '?' ∉ path) (hnumber : '#' ∉ path)
    (htail : IsTail tail) : cut (path ++ tail) = path := by
  rw [← withoutQuery_eq, withoutQuery, List.takeWhile_append_of_pos]
  · rcases tail with _ | ⟨c, tail⟩
    · simp
    · rcases htail.begins c rfl with rfl | rfl <;> simp
  · intro c hc
    have hne : c ≠ '?' ∧ c ≠ '#' :=
      ⟨fun heq => hquestion (heq ▸ hc), fun heq => hnumber (heq ▸ hc)⟩
    simpa using hne

/-- The path is the first word on the line that begins with a slash. -/
theorem Spells.path? (h : Spells rel line) (hrel : ∀ c ∈ rel, Text.isBlank c = false) :
    ∃ tail, IsTail tail ∧ Grammar.path? line = some ('/' :: rel ++ tail) := by
  have hword : ∀ tail, IsTail tail → Text.words ('/' :: rel ++ tail) = ['/' :: rel ++ tail] := by
    intro tail htail
    refine Text.words_of_not_isBlank ?_ (List.cons_ne_nil _ _)
    intro c hc
    rcases List.mem_append.1 hc with hpath | hquery
    · rcases List.mem_cons.1 hpath with rfl | hmem
      · decide
      · exact hrel c hmem
    · exact htail.blank_notMem c hquery
  cases h with
  | @bare before tail after hbefore htail hafter =>
      refine ⟨tail, htail, path?_of_find ?_⟩
      rw [Text.words_blanks_append hbefore, Text.words_append_blanks hafter, hword tail htail]
      rfl
  | @request before method tail version hbefore hmethod hslash htail =>
      have hspace : Text.isBlank ' ' = true := by decide
      refine ⟨tail, htail, path?_of_find ?_⟩
      rw [Text.words_blanks_append hbefore, Text.words_append_cons hspace,
        Text.words_append_cons hspace, hword tail htail]
      by_cases hnone : method = []
      · rw [hnone]
        rfl
      · rw [Text.words_of_not_isBlank hmethod hnone, List.singleton_append,
          List.find?_cons_of_neg (by simpa using hslash)]
        rfl

/-- **A spelling of names** gives these names. -/
theorem Spells.names? (h : Spells (joined names) line) (hne : names ≠ [])
    (hplain : ∀ name ∈ names, IsPlain name) : Grammar.names? line = some names := by
  have hjoined : ∀ c ∈ joined names, c = '/' ∨ ∃ name ∈ names, c ∈ name := fun c => mem_joined
  have hsegment : ∀ name ∈ names, IsSegment name :=
    fun name hname => (hplain name hname).toIsSegment
  -- A character that is in none of the names is not on the path.
  have hnot : ∀ c, c ≠ '/' → (∀ name ∈ names, c ∉ name) → c ∉ '/' :: joined names := by
    intro c hslash hnone hc
    rcases List.mem_cons.1 hc with heq | hmem
    · exact hslash heq
    · rcases hjoined c hmem with heq | ⟨name, hname, hin⟩
      · exact hslash heq
      · exact hnone name hname hin
  have hblank : ∀ c ∈ joined names, Text.isBlank c = false := by
    intro c hc
    rcases hjoined c hc with rfl | ⟨name, hname, hin⟩
    · decide
    · exact (hplain name hname).blank_notMem c hin
  obtain ⟨tail, htail, hpath⟩ := h.path? hblank
  have hcut : cut ('/' :: joined names ++ tail) = '/' :: joined names :=
    cut_append (hnot '?' (by decide) fun name hname => (hplain name hname).question_notMem)
      (hnot '#' (by decide) fun name hname => (hplain name hname).number_notMem) htail
  have hnul : '\x00' ∉ '/' :: joined names :=
    hnot _ (by decide) fun name hname => (hplain name hname).nul_notMem
  have hnames := names_joined hne hsegment
  have hup : ['.', '.'] ∉ segments ('/' :: joined names) := by
    intro hmem
    have hname : ['.', '.'] ∈ names := hnames ▸ List.mem_append_left _ hmem
    exact (hsegment _ hname).ne_dotDot rfl
  rw [Grammar.names?, hpath, Option.bind_some, hcut, hnames, if_neg]
  simp only [Bool.or_eq_true, List.contains_iff_mem, not_or]
  exact ⟨hnul, hup⟩

end Grammar

/-! ### Keys -/

/-- **Keys are canonical**: the key of a line is the root, as text, with the names joined to it that
the line gives; every spelling of these names has the same key; and it is the key of exactly those
lines that give the same names. -/
theorem resolve_canonical {root : Path} {line key : String} (h : resolve root line = .ok key) :
    ∃ names, Grammar.names? line.toList = some names ∧
      key = Grammar.under (Text.decode root) names ∧
      (names ≠ [] ∧ ∀ name ∈ names, Grammar.IsPlain name) ∧
      (∀ spelling : String, Grammar.Spells (Grammar.joined names) spelling.toList →
        resolve root spelling = .ok key) ∧
      ∀ other : String,
        resolve root other = .ok key ↔ Grammar.names? other.toList = some names := by
  rw [resolve_eq, Grammar.key_eq_ok_iff] at h
  obtain ⟨names, hnames, hkey⟩ := h
  obtain ⟨hne, hplain⟩ := Grammar.isPlain_of_names? hnames
  have hsame : ∀ other : String,
      resolve root other = .ok key ↔ Grammar.names? other.toList = some names := by
    intro other
    rw [resolve_eq, Grammar.key_eq_ok_iff]
    constructor
    · rintro ⟨others, hothers, hunder⟩
      obtain ⟨hne', hplain'⟩ := Grammar.isPlain_of_names? hothers
      rw [hothers, Grammar.under_injective hne' (fun name hname => (hplain' name hname).toIsSegment)
        hne (fun name hname => (hplain name hname).toIsSegment) (hunder.symm.trans hkey)]
    · intro hother
      exact ⟨names, hother, hkey⟩
  refine ⟨names, hnames, hkey, ⟨hne, hplain⟩, ?_, hsame⟩
  intro spelling hspells
  exact (hsame spelling).2 (hspells.names? hne hplain)

/-- A request with a query under a root that is no text, and two other spellings of its path. -/
theorem resolve_canonical_spelled :
    resolve [0xFF] "GET //a/./b/?x HTTP/1.1" = .ok "\uFFFD/a/b/index.html" ∧
      resolve [0xFF] " /a/b/index.html?y \r" = .ok "\uFFFD/a/b/index.html" ∧
      resolve [0xFF] "PUT /a/b/index.html HTTP/1.1" = .ok "\uFFFD/a/b/index.html" ∧
      resolve [0xFF] "/a/b" ≠ .ok "\uFFFD/a/b/index.html" := by
  have hkey : resolve [0xFF] "GET //a/./b/?x HTTP/1.1" = .ok "\uFFFD/a/b/index.html" := by
    decide +kernel
  have hgiven : Grammar.names? "GET //a/./b/?x HTTP/1.1".toList
      = some [['a'], ['b'], indexName.toList] := by
    decide +kernel
  obtain ⟨names, hnames, -, -, hspells, hsame⟩ := resolve_canonical hkey
  obtain rfl := Option.some.inj (hgiven.symm.trans hnames)
  refine ⟨hkey, hspells _ ?_, hspells _ ?_, ?_⟩
  · have htail : Grammar.IsTail ['?', 'y'] :=
      ⟨by simp, Text.not_isBlank_of_any (by decide)⟩
    exact @Grammar.Spells.bare _ [' '] _ [' ', '\r'] (List.all_eq_true.1 (by decide)) htail
      (List.all_eq_true.1 (by decide))
  · have htail : Grammar.IsTail [] := ⟨by simp, by simp⟩
    exact @Grammar.Spells.request _ [] "PUT".toList [] "HTTP/1.1".toList (by simp)
      (Text.not_isBlank_of_any (by decide)) (by decide) htail
  · intro hother
    exact absurd ((hsame "/a/b").1 hother) (by decide +kernel)

end Key

end FileServer
