import Mathlib.Data.List.Basic
import FileServer.Key
import FileServer.Proofs.Text.Utf8

/-!
# Keys stay under the root

A key is the path of a file, and it should name something in the serving root: the bytes of the
root, and behind them names of directories and of a file, parted by separators (`Path.Inside`).

A key is text, so that a root is part of it as text. Where the bytes of the root are those of a
text, the key is inside the root. Bytes that are no text are replaced: then the key is inside
another root, the one that is shown for it (`Path.shown`), and two roots that are shown alike have
keys in common. `resolve_inside` says where keys are for every root, `resolve_ff` that the root
itself need not be around them.
-/

namespace FileServer

namespace Path

/-- What a file or a directory can be called. -/
structure IsName (segment : Path) : Prop where
  /-- A name is not empty. -/
  ne_nil : segment ≠ []
  /-- A name is not the one of the directory it stands in. -/
  ne_dot : segment ≠ Text.encode "."
  /-- A name is not the one of the directory above. -/
  ne_dotDot : segment ≠ Text.encode ".."
  /-- A name ends at a separator. -/
  separator_notMem : separator ∉ segment

/-- What ends with a name does not end with a separator. -/
theorem IsName.getLast?_append {name : Path} (h : IsName name) (front : Path) :
    ¬(front ++ name = [] ∨ (front ++ name).getLast? = some separator) := by
  rintro (hnil | hlast)
  · exact h.ne_nil (List.append_eq_nil_iff.1 hnil).2
  · rw [List.getLast?_append, List.getLast?_eq_some_getLast h.ne_nil, Option.some_or] at hlast
    apply h.separator_notMem
    rw [← Option.some.inj hlast]
    exact List.getLast_mem h.ne_nil

/-- A directory as it stands before the names in it: with a separator behind it, unless it ends with
one or is empty. -/
def base (root : Path) : Path :=
  if root = [] ∨ root.getLast? = some separator then root else root ++ [separator]

/-- A path that leads from a directory downwards, by one name or several. -/
def Inside (root path : Path) : Prop :=
  ∃ (first : Path) (others : List Path), IsName first ∧ (∀ other ∈ others, IsName other) ∧
    path = root.base ++ first ++ others.flatMap (separator :: ·)

/-- A path as it is shown as text. -/
def shown (path : Path) : Path := Text.encode (Text.decode path)

variable {root path : Path}

/-- A text is shown as it is. -/
@[simp] theorem shown_encode (text : String) : shown (Text.encode text) = Text.encode text := by
  rw [shown, Text.decode_encode]

/-- A base begins with its root. -/
theorem prefix_base (root : Path) : root <+: root.base := by
  unfold base
  split
  · exact List.prefix_refl _
  · exact List.prefix_append _ _

/-- What is inside of a root begins with it. -/
theorem Inside.isPrefix (h : Inside root path) : root <+: path := by
  obtain ⟨first, others, -, -, rfl⟩ := h
  rw [List.append_assoc]
  exact (prefix_base root).trans (List.prefix_append _ _)

/-- A path is shown as the text that its bytes are read as. -/
theorem shown_eq (path : Path) : path.shown = Text.encodeChars (Text.decodeChars path) := by
  rw [shown, Text.encode, Text.toList_decode]

/-- A separator is shown as it is. -/
theorem shown_append_separator (front : Path) :
    (front ++ [separator]).shown = front.shown ++ [separator] := by
  rw [shown_eq, shown_eq, separator, Text.decodeChars_append_slash, Text.decodeChars_nil,
    Text.encodeChars_append]
  rfl

/-- What is shown ends with a separator if the path does. -/
theorem getLast?_shown (path : Path) :
    path.shown.getLast? = some separator ↔ path.getLast? = some separator := by
  constructor
  · intro h
    rw [shown_eq] at h
    exact Text.getLast?_of_decodeChars (Text.getLast?_of_encodeChars h)
  · intro h
    obtain ⟨front, rfl⟩ := List.getLast?_eq_some_iff.1 h
    rw [shown_append_separator, List.getLast?_concat]

/-- What is shown is empty if the path is. -/
theorem shown_eq_nil (path : Path) : path.shown = [] ↔ path = [] := by
  constructor
  · intro h
    rw [shown_eq] at h
    have hread := Text.decodeChars_encodeChars (Text.decodeChars path)
    rw [h, Text.decodeChars_nil] at hread
    rcases path with _ | ⟨lead, rest⟩
    · rfl
    · rw [Text.decodeChars_cons] at hread
      cases hread
  · rintro rfl
    simp [shown_eq]

/-- A directory stands before the names in it as it is shown. -/
theorem base_shown (root : Path) : root.shown.base = root.base.shown := by
  unfold base
  simp only [getLast?_shown, shown_eq_nil]
  split
  · rfl
  · exact (shown_append_separator root).symm

/-- Text behind a directory is shown as it is. -/
theorem shown_base_append (root : Path) (cs : List Char) :
    (root.base ++ Text.encodeChars cs).shown = root.shown.base ++ Text.encodeChars cs := by
  have hparted : ∀ front : Path, (front ++ [separator] ++ Text.encodeChars cs).shown
      = (front ++ [separator]).shown ++ Text.encodeChars cs := by
    intro front
    rw [shown_append_separator, shown_eq, shown_eq front, List.append_assoc front, separator,
      List.singleton_append, Text.decodeChars_append_slash, Text.decodeChars_encodeChars,
      Text.encodeChars_append, Text.encodeChars_cons, List.append_assoc]
    rfl
  rw [base_shown]
  unfold base
  by_cases hends : root = [] ∨ root.getLast? = some separator
  · rw [if_pos hends]
    rcases hends with rfl | hlast
    · simp [shown_eq]
    · obtain ⟨front, rfl⟩ := List.getLast?_eq_some_iff.1 hlast
      exact hparted front
  · rw [if_neg hends]
    exact hparted root

end Path

namespace Key

/-- A segment of a line that is a name. -/
structure IsSegment (segment : List Char) : Prop where
  /-- A name is not empty. -/
  ne_nil : segment ≠ []
  /-- A name is not the one of the directory it stands in. -/
  ne_dot : segment ≠ ['.']
  /-- A name is not the one of the directory above. -/
  ne_dotDot : segment ≠ ['.', '.']
  /-- A name ends at a slash. -/
  slash_notMem : '/' ∉ segment

/-- A segment is a name once it is encoded. -/
theorem IsSegment.isName {segment : List Char} (h : IsSegment segment) :
    Path.IsName (Text.encodeChars segment) where
  ne_nil hnil := h.ne_nil (Text.encodeChars_injective hnil)
  ne_dot hdot := h.ne_dot (Text.encodeChars_injective hdot)
  ne_dotDot hdots := h.ne_dotDot (Text.encodeChars_injective hdots)
  separator_notMem := Text.slash_notMem_encodeChars h.slash_notMem

/-- The stretches between slashes hold no slash. -/
theorem slash_notMem_splitFrom {segment path : List Char} (h : '/' ∉ segment) :
    ∀ stretch ∈ splitFrom segment path, '/' ∉ stretch := by
  induction path generalizing segment with
  | nil => simpa [splitFrom] using h
  | cons c cs ih =>
      rw [splitFrom]
      by_cases hc : c = '/'
      · rw [if_pos hc]
        simpa [h] using ih List.not_mem_nil
      · rw [if_neg hc]
        apply ih
        simpa [Ne.symm hc] using h

namespace Build

variable {root : Path} {build next : Build} {segment : List Char}

/-- What has been added to the root so far: nothing, or names. -/
def Grown (root : Path) (build : Build) : Prop :=
  build.path = root ∧ build.extended = false ∨
    build.extended = true ∧ ∃ (first : List Char) (others : List (List Char)),
      IsSegment first ∧ (∀ other ∈ others, IsSegment other) ∧
      build.path = root.base ++ Text.encodeChars (first ++ others.flatMap ('/' :: ·))

/-- A path begins at its root. -/
theorem grown_ofRoot (root : Path) : (ofRoot root).Grown root := Or.inl ⟨path_ofRoot root, rfl⟩

/-- Names one behind the other end with a name. -/
theorem exists_last {first : List Char} {others : List (List Char)} (hfirst : IsSegment first)
    (hothers : ∀ other ∈ others, IsSegment other) :
    ∃ front last, IsSegment last ∧ first ++ others.flatMap ('/' :: ·) = front ++ last := by
  rcases List.eq_nil_or_concat others with rfl | ⟨before, last, rfl⟩
  · exact ⟨[], first, hfirst, by simp⟩
  · refine ⟨first ++ before.flatMap ('/' :: ·) ++ ['/'], last, hothers last (by simp), ?_⟩
    simp

/-- A segment comes to stand in the directory that was built so far. -/
theorem path_push_eq (build : Build) (segment : Path) :
    (build.push segment).path = build.path.base ++ segment := by
  rw [path_push, Path.base]
  split
  · rfl
  · rw [List.append_assoc, List.singleton_append]

/-- Adding a name to the root, or behind others. -/
theorem Grown.push (h : build.Grown root) (hsegment : IsSegment segment) :
    (build.push (Text.encodeChars segment)).Grown root := by
  have hpush := path_push_eq build (Text.encodeChars segment)
  have hextended : (build.push (Text.encodeChars segment)).extended = true := by
    unfold Build.push
    split <;> rfl
  refine Or.inr ⟨hextended, ?_⟩
  rcases h with ⟨hpath, -⟩ | ⟨-, first, others, hfirst, hothers, hpath⟩
  · have hnone : ∀ other ∈ ([] : List (List Char)), IsSegment other :=
      fun other hother => absurd hother List.not_mem_nil
    rw [hpath] at hpush
    exact ⟨segment, [], hsegment, hnone, by simpa using hpush⟩
  · obtain ⟨front, last, hlast, hsplit⟩ := exists_last hfirst hothers
    have hnot : ¬(build.path = [] ∨ build.path.getLast? = some Path.separator) := by
      rw [hpath, hsplit, Text.encodeChars_append, ← List.append_assoc]
      exact hlast.isName.getLast?_append _
    rw [Path.base, if_neg hnot, hpath] at hpush
    refine ⟨first, others ++ [segment], hfirst, ?_, ?_⟩
    · intro other hother
      rcases List.mem_append.1 hother with hold | hnew
      · exact hothers other hold
      · exact List.mem_singleton.1 hnew ▸ hsegment
    · rw [hpush]
      simp only [List.flatMap_append, List.flatMap_cons, List.flatMap_nil, List.append_nil,
        Text.encodeChars_append, Text.encodeChars_cons, List.append_assoc]
      rfl

/-- Adding what stands between two slashes. -/
theorem Grown.add (h : build.Grown root) (hslash : '/' ∉ segment)
    (hadd : build.add segment = .ok next) : next.Grown root := by
  unfold Build.add at hadd
  by_cases hhere : segment = [] ∨ segment = ['.']
  · rw [if_pos hhere] at hadd
    cases hadd
    exact h
  · rw [if_neg hhere] at hadd
    by_cases habove : segment = ['.', '.']
    · rw [if_pos habove] at hadd
      cases hadd
    · rw [if_neg habove] at hadd
      cases hadd
      refine h.push ⟨?_, ?_, habove, hslash⟩
      · intro hnil
        exact hhere (Or.inl hnil)
      · intro hdot
        exact hhere (Or.inr hdot)

/-- Adding one stretch after the other. -/
theorem Grown.foldlM {segments : List (List Char)} (h : build.Grown root)
    (hslash : ∀ segment ∈ segments, '/' ∉ segment)
    (hfold : segments.foldlM Build.add build = .ok next) : next.Grown root := by
  induction segments generalizing build with
  | nil =>
      cases hfold
      exact h
  | cons segment segments ih =>
      rw [List.foldlM_cons] at hfold
      rcases hadd : build.add segment with cause | added
      · rw [hadd] at hfold
        cases hfold
      · rw [hadd] at hfold
        have hadded := h.add (hslash segment List.mem_cons_self) hadd
        exact ih hadded (fun other hother => hslash other (List.mem_cons_of_mem _ hother)) hfold

/-- Names have been added to the root, and the path is shown inside it as it is shown. -/
theorem Grown.inside (h : build.Grown root) (hextended : build.extended = true) :
    Path.Inside root.shown build.path.shown := by
  rcases h with ⟨-, hnot⟩ | ⟨-, first, others, hfirst, hothers, hpath⟩
  · rw [hextended] at hnot
    cases hnot
  · refine ⟨Text.encodeChars first, others.map Text.encodeChars, hfirst.isName, ?_, ?_⟩
    · intro name hname
      obtain ⟨other, hother, rfl⟩ := List.mem_map.1 hname
      exact (hothers other hother).isName
    · rw [hpath, Path.shown_base_append, Text.encodeChars_append, List.append_assoc,
        List.flatMap_map]
      congr 2
      rw [Text.encodeChars, List.flatMap_assoc]
      rfl

end Build

/-- The name of the index is a segment. -/
theorem isSegment_indexName : IsSegment indexName.toList :=
  ⟨by decide, by decide, by decide, by decide⟩

variable {root other : Path} {path : List Char} {line target : String} {key : String}

/-- The key of a path is inside the root as it is shown. -/
theorem ofPath_inside (h : ofPath root path = .ok key) :
    Path.Inside root.shown (Text.encode key) := by
  unfold ofPath at h
  split at h
  · cases h
  · rcases hfold : (split path).foldlM Build.add (.ofRoot root) with cause | build
    · rw [hfold] at h
      cases h
    · rw [hfold] at h
      have hgrown := (Build.grown_ofRoot root).foldlM
        (slash_notMem_splitFrom List.not_mem_nil) hfold
      obtain rfl : Text.decode _ = key := Except.ok.inj h
      split
      · exact (hgrown.push isSegment_indexName).inside (by unfold Build.push; split <;> rfl)
      · rename_i hnone
        rw [Bool.or_eq_true, not_or, Bool.not_eq_true', Bool.not_eq_false] at hnone
        exact hgrown.inside hnone.1

/-- **Keys stay inside the root** as it is shown. -/
theorem resolve_inside (h : resolve root line = .ok key) :
    Path.Inside root.shown (Text.encode key) := by
  unfold resolve at h
  rcases hpath : pathOfLine line.toList with cause | path
  · rw [hpath] at h
    cases h
  · rw [hpath] at h
    exact ofPath_inside h

/-- **Where keys are**: inside the root as it is shown, and so inside the root itself if its bytes
are those of a text. Roots that are shown apart from each other have no key in common. -/
theorem resolve_confined (h : resolve root line = .ok key) :
    Path.Inside root.shown (Text.encode key) ∧
      (∀ text, root = Text.encode text → Path.Inside root (Text.encode key)) ∧
      ∀ other target, ¬root.shown <+: Path.shown other → ¬Path.shown other <+: root.shown →
        resolve other target ≠ .ok key := by
  have hinside := resolve_inside h
  refine ⟨hinside, ?_, ?_⟩
  · rintro text rfl
    rwa [Path.shown_encode] at hinside
  · intro other target hone htwo hother
    rcases List.prefix_or_prefix_of_prefix hinside.isPrefix (resolve_inside hother).isPrefix with
      hbefore | hbefore
    · exact hone hbefore
    · exact htwo hbefore

/-- A request for a directory under one root, whose key no target has under another. -/
theorem resolve_confined_srv :
    resolve (Text.encode "/srv") "GET /a/./b/?q HTTP/1.1" = .ok "/srv/a/b/index.html" ∧
      Path.Inside (Text.encode "/srv") (Text.encode "/srv/a/b/index.html") ∧
      ∀ target, resolve (Text.encode "/var") target ≠ .ok "/srv/a/b/index.html" := by
  have hkey : resolve (Text.encode "/srv") "GET /a/./b/?q HTTP/1.1"
      = .ok "/srv/a/b/index.html" := by
    decide +kernel
  obtain ⟨-, hinside, hapart⟩ := resolve_confined hkey
  refine ⟨hkey, hinside "/srv" rfl, fun target => hapart _ target ?_ ?_⟩
  · rw [Path.shown_encode, Path.shown_encode]
    decide
  · rw [Path.shown_encode, Path.shown_encode]
    decide

/-- A root that is no text has its keys outside of it, and another such root has the same ones. -/
theorem resolve_ff : resolve [0xFF] "/a" = .ok "\uFFFD/a" ∧
    ¬Path.Inside [0xFF] (Text.encode "\uFFFD/a") ∧
    resolve [0xFE] "/a" = .ok "\uFFFD/a" ∧
    ¬[0xFF] <+: ([0xFE] : Path) ∧ ¬[0xFE] <+: ([0xFF] : Path) := by
  refine ⟨by decide +kernel, ?_, by decide +kernel, by decide, by decide⟩
  intro hinside
  exact absurd hinside.isPrefix (by decide)

end Key

end FileServer
