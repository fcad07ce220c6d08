import Mathlib.Data.List.DropRight
import FileServer.Proofs.Key

/-!
# The grammar of resource keys

What a request line names, said without the order in which the code looks at it: cut the blanks off
the line, take the path on it, cut the path at its query, split it at slashes and leave out the
stretches that stand for the directory they are in. What is left is refused for a NUL, refused for
a `..`, or joined to the root.

`Grammar.key` writes this down with the library's splitting and joining of lists, and
`resolve_eq_grammar` says that the key of every line is the one of the grammar. The three loops of
the code are compared with the library one by one: the words of a line are its stretches between
blanks that are not empty (`Text.words_eq_filter`), the segments of a path are its stretches
between slashes (`split_eq_splitOn`), and adding segments one by one is joining them
(`Build.path_foldl_push`).
-/

namespace FileServer

namespace Text

/-- The words that are read with `word` begun: its characters belong to the first stretch. -/
theorem wordsFrom_eq_filter (word cs : List Char) :
    wordsFrom word cs
      = ((cs.splitOnP isBlank).modifyHead (word.reverse ++ ·)).filter (!·.isEmpty) := by
  induction cs generalizing word with
  | nil =>
      rcases word with _ | ⟨c, word⟩
      · rfl
      · simp [wordsFrom]
  | cons c cs ih =>
      rw [wordsFrom, List.splitOnP_cons_eq_if_modifyHead]
      by_cases hblank : isBlank c = true
      · have hrest : wordsFrom [] cs = (cs.splitOnP isBlank).filter (!·.isEmpty) := by
          rw [ih]
          rcases cs.splitOnP isBlank with _ | ⟨first, others⟩ <;> rfl
        rw [if_pos hblank, if_pos hblank, hrest, List.modifyHead_cons, List.append_nil,
          List.filter_cons, List.isEmpty_reverse]
        rcases word with _ | ⟨d, word⟩ <;> rfl
      · rw [if_neg hblank, if_neg hblank, ih, List.modifyHead_modifyHead]
        congr 2
        funext stretch
        simp

/-- **Words** are the stretches between blanks that are not empty. -/
theorem words_eq_filter (cs : List Char) :
    words cs = (cs.splitOnP isBlank).filter (!·.isEmpty) := by
  rw [words, wordsFrom_eq_filter]
  rcases cs.splitOnP isBlank with _ | ⟨first, others⟩ <;> rfl

end Text

namespace Key

/-! ### The grammar -/

namespace Grammar

/-- A line without the blanks at its ends. -/
def core (line : List Char) : List Char :=
  (line.rdropWhile Text.isBlank).dropWhile Text.isBlank

/-- The path on a line: the whole of it if there is no blank in it, or else the first stretch
between blanks that begins with a slash. -/
def path? (line : List Char) : Option (List Char) :=
  if (core line).any Text.isBlank then
    ((core line).splitOnP Text.isBlank).find? fun token => token.head? = some '/'
  else some (core line)

/-- What stands before the first question mark or number sign. -/
def cut (path : List Char) : List Char :=
  path.take (path.findIdx fun c => c = '?' || c = '#')

/-- Whether a stretch between slashes leads anywhere. -/
def Leads (segment : List Char) : Prop := segment ≠ [] ∧ segment ≠ ['.']

instance (segment : List Char) : Decidable (Leads segment) :=
  inferInstanceAs (Decidable (_ ∧ _))

/-- The stretches between slashes that lead somewhere, in order. -/
def segments (path : List Char) : List (List Char) :=
  (path.splitOn '/').filter fun segment => Leads segment

/-- What is joined to the root: the segments, and the index behind them if there are none or the
path ends with a slash. -/
def names (path : List Char) : List (List Char) :=
  segments path ++ if segments path = [] ∨ path.getLast? = some '/' then [indexName.toList] else []

/-- A root as it stands before what is joined to it: with a slash behind it, unless it is empty or
ends with one. -/
def base (root : List Char) : List Char :=
  if root = [] ∨ root.getLast? = some '/' then root else root ++ ['/']

/-- A root with names joined to it by single slashes. -/
def under (root : String) (names : List (List Char)) : String :=
  String.ofList (base root.toList ++ ['/'].intercalate names)

/-- The key of a line under a root, or why there is none. -/
def key (root line : String) : Except KeyError String :=
  match path? line.toList with
  | none => .error .noPath
  | some path =>
    if '\x00' ∈ cut path then .error .invalidByte
    else if ['.', '.'] ∈ segments (cut path) then .error .traversal
    else .ok (under root (names (cut path)))

/-- A root stands before what is joined to it in the same way as text and as bytes. -/
theorem base_encodeChars (root : List Char) :
    Path.base (Text.encodeChars root) = Text.encodeChars (base root) := by
  have hempty : Text.encodeChars root = [] ↔ root = [] :=
    ⟨fun h => Text.encodeChars_injective h, fun h => by rw [h, Text.encodeChars_nil]⟩
  have hlast : (Text.encodeChars root).getLast? = some Path.separator
      ↔ root.getLast? = some '/' := by
    constructor
    · exact Text.getLast?_of_encodeChars
    · intro h
      obtain ⟨front, rfl⟩ := List.getLast?_eq_some_iff.1 h
      rw [Text.encodeChars_append]
      exact List.getLast?_concat
  unfold Path.base base
  simp only [hempty, hlast]
  split
  · rfl
  · rw [Text.encodeChars_append]
    rfl

end Grammar

/-! ### The path on a line -/

/-- The path that is found on a line is the one of the grammar. -/
theorem pathOfLine_eq (line : List Char) :
    pathOfLine line = match Grammar.path? line with
      | some path => .ok path
      | none => .error .noPath := by
  have hcore : Text.trim line = Grammar.core line := rfl
  have hfirst : (Text.words (Grammar.core line)).find? (fun word => word.head? = some '/')
      = ((Grammar.core line).splitOnP Text.isBlank).find? fun token => token.head? = some '/' := by
    rw [Text.words_eq_filter, List.find?_filter]
    congr 1
    funext token
    -- an empty stretch begins with nothing, so leaving it out changes no search
    rcases token with _ | ⟨c, token⟩ <;> simp
  rw [pathOfLine, Grammar.path?, hcore, hfirst]
  by_cases hblank : (Grammar.core line).any Text.isBlank = true
  · cases ((Grammar.core line).splitOnP Text.isBlank).find?
        fun token => token.head? = some '/' with
    | some path => simp only [if_pos hblank]
    | none => simp only [if_pos hblank]
  · simp only [if_neg hblank]

/-- What stands before the query. -/
theorem withoutQuery_eq (path : List Char) : withoutQuery path = Grammar.cut path := by
  rw [withoutQuery, Grammar.cut, List.takeWhile_eq_take_findIdx_not]
  congr 2
  funext c
  simp

/-! ### The segments of a path -/

/-- The stretches that are read with `segment` begun: its characters belong to the first. -/
theorem splitFrom_eq_modifyHead (segment path : List Char) :
    splitFrom segment path = (path.splitOn '/').modifyHead (segment.reverse ++ ·) := by
  induction path generalizing segment with
  | nil => simp [splitFrom]
  | cons c cs ih =>
      rw [splitFrom, List.splitOn_cons_eq_if_modifyHead]
      by_cases hslash : c = '/'
      · rw [if_pos hslash, if_pos (beq_iff_eq.2 hslash), ih, List.modifyHead_cons, List.append_nil]
        rcases cs.splitOn '/' with _ | ⟨first, others⟩ <;> rfl
      · rw [if_neg hslash, if_neg (by simpa using hslash), ih, List.modifyHead_modifyHead]
        congr 1
        funext stretch
        simp

/-- **Segments** are the stretches between slashes. -/
theorem split_eq_splitOn (path : List Char) : split path = path.splitOn '/' := by
  rw [split, splitFrom_eq_modifyHead]
  rcases path.splitOn '/' with _ | ⟨first, others⟩ <;> rfl

/-- Splitting invents no character. -/
theorem mem_of_mem_splitFrom {segment path stretch : List Char} {c : Char}
    (hstretch : stretch ∈ splitFrom segment path) (hc : c ∈ stretch) : c ∈ segment ∨ c ∈ path := by
  induction path generalizing segment with
  | nil =>
      rw [splitFrom, List.mem_singleton] at hstretch
      exact Or.inl (by simpa [hstretch] using hc)
  | cons d ds ih =>
      rw [splitFrom] at hstretch
      split at hstretch
      · rcases List.mem_cons.1 hstretch with rfl | hlater
        · exact Or.inl (List.mem_reverse.1 hc)
        · exact Or.inr (List.mem_cons_of_mem _ ((ih hlater).resolve_left List.not_mem_nil))
      · rcases ih hstretch with hbegun | hrest
        · rcases List.mem_cons.1 hbegun with rfl | hold
          · exact Or.inr List.mem_cons_self
          · exact Or.inl hold
        · exact Or.inr (List.mem_cons_of_mem _ hrest)

namespace Grammar

variable {path name : List Char}

/-- What leads somewhere, and not upwards, is a name. -/
theorem isSegment_of_mem_segments (hmem : name ∈ segments path) (hup : ['.', '.'] ∉ segments path) :
    IsSegment name := by
  obtain ⟨hstretch, hleads⟩ := List.mem_filter.1 hmem
  obtain ⟨hempty, hdot⟩ : Leads name := by simpa using hleads
  refine ⟨hempty, hdot, ?_, ?_⟩
  · rintro rfl
    exact hup hmem
  · rw [← split_eq_splitOn] at hstretch
    exact slash_notMem_splitFrom List.not_mem_nil name hstretch

/-- Every name that is joined to a root is one. -/
theorem isSegment_of_mem_names (hmem : name ∈ names path) (hup : ['.', '.'] ∉ segments path) :
    IsSegment name := by
  rcases List.mem_append.1 hmem with hsegment | hindex
  · exact isSegment_of_mem_segments hsegment hup
  · split at hindex
    · rw [List.mem_singleton.1 hindex]
      exact isSegment_indexName
    · exact absurd hindex List.not_mem_nil

/-- A name has no character that the path does not have, but for those of the index. -/
theorem mem_of_mem_names {c : Char} (hmem : name ∈ names path) (hc : c ∈ name) :
    c ∈ path ∨ c ∈ indexName.toList := by
  rcases List.mem_append.1 hmem with hsegment | hindex
  · have hstretch := (List.mem_filter.1 hsegment).1
    rw [← split_eq_splitOn] at hstretch
    exact Or.inl ((mem_of_mem_splitFrom hstretch hc).resolve_left List.not_mem_nil)
  · split at hindex
    · rw [List.mem_singleton.1 hindex] at hc
      exact Or.inr hc
    · exact absurd hindex List.not_mem_nil

/-- A name has no NUL in it if the path has none. -/
theorem nul_notMem_of_mem_names (hmem : name ∈ names path) (hnul : '\x00' ∉ path) :
    '\x00' ∉ name := by
  intro hc
  rcases mem_of_mem_names hmem hc with hpath | hindex
  · exact hnul hpath
  · exact absurd hindex (by decide)

/-- Something is joined to the root. -/
theorem names_ne_nil (path : List Char) : names path ≠ [] := by
  intro hnone
  obtain ⟨hsegments, hindex⟩ := List.append_eq_nil_iff.1 hnone
  rw [if_pos (Or.inl hsegments)] at hindex
  exact List.cons_ne_nil _ _ hindex

end Grammar

/-! ### Joining -/

namespace Build

/-- A path with segments added to it, one by one. -/
def pushAll (build : Build) (segments : List (List Char)) : Build :=
  segments.foldl (fun grown segment => grown.push (Text.encodeChars segment)) build

/-- The first segment is pushed first. -/
theorem pushAll_cons (build : Build) (segment : List Char) (segments : List (List Char)) :
    build.pushAll (segment :: segments)
      = (build.push (Text.encodeChars segment)).pushAll segments := rfl

/-- The last segment is pushed last. -/
theorem pushAll_concat (build : Build) (segments : List (List Char)) (segment : List Char) :
    build.pushAll (segments ++ [segment])
      = (build.pushAll segments).push (Text.encodeChars segment) := by
  rw [pushAll, List.foldl_concat]
  rfl

/-- A path that a segment is pushed to is extended. -/
theorem extended_push (build : Build) (segment : Path) : (build.push segment).extended = true := by
  unfold push
  split <;> rfl

/-- Something has been added if there was something to add. -/
theorem extended_pushAll (build : Build) (segments : List (List Char)) :
    (build.pushAll segments).extended = (build.extended || !segments.isEmpty) := by
  rcases List.eq_nil_or_concat' segments with rfl | ⟨before, last, rfl⟩
  · simp [pushAll]
  · rw [pushAll_concat, extended_push]
    simp

/-- Adding what stands between slashes: nothing is added if one of the stretches leads upwards, and
otherwise those that lead somewhere are. -/
theorem foldlM_add_eq (stretches : List (List Char)) (build : Build) :
    stretches.foldlM add build
      = if ['.', '.'] ∈ stretches.filter (fun segment => Grammar.Leads segment)
        then .error .traversal
        else .ok (build.pushAll (stretches.filter fun segment => Grammar.Leads segment)) := by
  induction stretches generalizing build with
  | nil => rfl
  | cons segment rest ih =>
      rw [List.foldlM_cons, add]
      by_cases hhere : segment = [] ∨ segment = ['.']
      · have hleads : ¬Grammar.Leads segment := fun h => hhere.elim h.1 h.2
        rw [if_pos hhere, List.filter_cons_of_neg (by simpa using hleads)]
        exact ih build
      · have hleads : Grammar.Leads segment := not_or.1 hhere
        rw [if_neg hhere, List.filter_cons_of_pos (by simpa using hleads)]
        by_cases hup : segment = ['.', '.']
        · rw [if_pos hup, if_pos (by simp [hup])]
          rfl
        · rw [if_neg hup, pushAll_cons]
          have hsame : ∀ others : List (List Char),
              ['.', '.'] ∈ segment :: others ↔ ['.', '.'] ∈ others :=
            fun others => by simp [Ne.symm hup]
          simp only [hsame]
          exact ih _

/-- Adding names one by one is joining them with single separators, behind the root as it stands
before what is in it. -/
theorem path_pushAll (build : Build) {names : List (List Char)} (hne : names ≠ [])
    (hnames : ∀ name ∈ names, IsSegment name) :
    (build.pushAll names).path
      = build.path.base ++ Text.encodeChars (['/'].intercalate names) := by
  induction names generalizing build with
  | nil => exact absurd rfl hne
  | cons name rest ih =>
      rw [pushAll_cons]
      rcases rest with _ | ⟨next, others⟩
      · rw [List.intercalate_singleton]
        exact path_push_eq build _
      · have hname := (hnames name List.mem_cons_self).isName
        have hbase : (build.push (Text.encodeChars name)).path.base
            = build.path.base ++ Text.encodeChars name ++ [Path.separator] := by
          rw [path_push_eq, Path.base, if_neg (hname.getLast?_append _)]
        have hrest : ∀ other ∈ next :: others, IsSegment other :=
          fun other hother => hnames other (List.mem_cons_of_mem _ hother)
        have hslash : Text.encodeChars ['/'] = [Path.separator] := rfl
        rw [ih _ (List.cons_ne_nil _ _) hrest, hbase, List.intercalate_cons_cons,
          Text.encodeChars_append, Text.encodeChars_append, hslash]
        simp only [List.append_assoc]

end Build

/-- The index is pushed behind the segments where the grammar has it. -/
theorem pushAll_names (build : Build) (path : List Char) (hbare : build.extended = false) :
    (if !(build.pushAll (Grammar.segments path)).extended || path.getLast? = some '/' then
        (build.pushAll (Grammar.segments path)).push (Text.encode indexName)
      else build.pushAll (Grammar.segments path))
      = build.pushAll (Grammar.names path) := by
  rw [Build.extended_pushAll, hbare, Grammar.names]
  by_cases hindex : Grammar.segments path = [] ∨ path.getLast? = some '/'
  · rw [if_pos hindex, if_pos (by simpa using hindex), Build.pushAll_concat]
    rfl
  · rw [if_neg hindex, if_neg (by simpa using hindex), List.append_nil]

/-- What is read of a root with names joined to it is the root as text with the names joined to
it. -/
theorem decode_base_append (root : Path) (names : List (List Char)) :
    Text.decode (root.base ++ Text.encodeChars (['/'].intercalate names))
      = Grammar.under (Text.decode root) names := by
  have hshown := Path.shown_base_append root (['/'].intercalate names)
  have hbase : root.shown.base = Text.encodeChars (Grammar.base (Text.decode root).toList) := by
    rw [Path.shown, Text.encode, Grammar.base_encodeChars]
  rw [hbase, ← Text.encodeChars_append] at hshown
  rw [← Text.decode_encode (Text.decode _)]
  change Text.decode (Path.shown _) = _
  rw [hshown, Text.decode, Text.decodeChars_encodeChars, Grammar.under]

/-- The key of a path that holds no query is the one of the grammar, under the root as text. -/
theorem ofPath_eq (root : Path) (path : List Char) :
    ofPath root path
      = if '\x00' ∈ path then .error .invalidByte
        else if ['.', '.'] ∈ Grammar.segments path then .error .traversal
        else .ok (Grammar.under (Text.decode root) (Grammar.names path)) := by
  have hnul : path.any (· = '\x00') = true ↔ '\x00' ∈ path := by simp
  rw [ofPath, split_eq_splitOn, Build.foldlM_add_eq]
  simp only [hnul]
  split
  · rfl
  · by_cases hup : ['.', '.'] ∈ Grammar.segments path
    · rw [if_pos hup]
      exact congrArg (· >>= _) (if_pos hup)
    · rw [if_neg hup]
      have hnames : ∀ name ∈ Grammar.names path, IsSegment name :=
        fun name hname => Grammar.isSegment_of_mem_names hname hup
      have hpath := Build.path_pushAll (.ofRoot root) (Grammar.names_ne_nil path) hnames
      rw [Build.path_ofRoot] at hpath
      rw [← decode_base_append, ← hpath, ← pushAll_names _ path rfl]
      exact congrArg (· >>= _) (if_neg hup)

/-- **Under every root** the key of a line is the one of the grammar under the root as text. -/
theorem resolve_eq (root : Path) (line : String) :
    resolve root line = Grammar.key (Text.decode root) line := by
  rw [resolve, pathOfLine_eq, Grammar.key]
  rcases Grammar.path? line.toList with _ | path
  · rfl
  · change ofPath root (withoutQuery path) = _
    rw [ofPath_eq, withoutQuery_eq]

/-- The key of a line is the one of the grammar. -/
theorem resolve_eq_key (root line : String) :
    resolve (Text.encode root) line = Grammar.key root line := by
  rw [resolve_eq, Text.decode_encode]

/-- **The key of a line** is the one of the grammar, and every key is the root with names joined to
it: one at least, and none of them empty, one of the two that lead nowhere or upwards, or with a
slash or a NUL in it. -/
theorem resolve_eq_grammar (root line : String) :
    resolve (Text.encode root) line = Grammar.key root line ∧
      ∀ key, resolve (Text.encode root) line = .ok key →
        ∃ names : List (List Char), names ≠ [] ∧
          (∀ name ∈ names, IsSegment name ∧ '\x00' ∉ name) ∧ key = Grammar.under root names := by
  refine ⟨resolve_eq_key root line, ?_⟩
  intro key hkey
  rw [resolve_eq_key, Grammar.key] at hkey
  split at hkey
  · cases hkey
  · rename_i path _
    split at hkey
    · cases hkey
    · rename_i hnul
      split at hkey
      · cases hkey
      · rename_i hup
        refine ⟨Grammar.names (Grammar.cut path), Grammar.names_ne_nil _, ?_,
          (Except.ok.inj hkey).symm⟩
        intro name hname
        exact ⟨Grammar.isSegment_of_mem_names hname hup, Grammar.nul_notMem_of_mem_names hname hnul⟩

/-- Repeated slashes, a dot at the end, and a query that hides a way upwards. -/
theorem resolve_eq_grammar_dotted :
    Grammar.key "/srv/" "GET //a/./b/.?/../ HTTP/1.1" = .ok "/srv/a/b" ∧
      resolve (Text.encode "/srv/") "GET //a/./b/.?/../ HTTP/1.1" = .ok "/srv/a/b" ∧
      ∃ names : List (List Char), names ≠ [] ∧
        (∀ name ∈ names, IsSegment name ∧ '\x00' ∉ name) ∧
        "/srv/a/b" = Grammar.under "/srv/" names := by
  have hgrammar : Grammar.key "/srv/" "GET //a/./b/.?/../ HTTP/1.1" = .ok "/srv/a/b" := by
    decide +kernel
  obtain ⟨hkey, hnames⟩ := resolve_eq_grammar "/srv/" "GET //a/./b/.?/../ HTTP/1.1"
  rw [hgrammar] at hkey
  exact ⟨hgrammar, hkey, hnames _ hkey⟩

end Key

end FileServer
