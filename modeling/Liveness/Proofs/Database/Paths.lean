import Liveness.Database.Files
import Mathlib

namespace Liveness.Database

def IsRelative (path : List Char) : Prop := path.head? ≠ some '/'

instance (path : List Char) : Decidable (IsRelative path) :=
  inferInstanceAs (Decidable (path.head? ≠ some '/'))

theorem pathParts_cons (c : Char) (path : List Char) :
    pathParts (c :: path) = if c = '/' then [] :: pathParts path
      else match pathParts path with
        | part :: rest => (c :: part) :: rest
        | [] => [[c]] :=
  rfl

theorem pathParts_eq_splitOn (path : List Char) : pathParts path = path.splitOn '/' := by
  induction path with
  | nil => rfl
  | cons c path ih =>
      rw [pathParts_cons, ih, List.splitOn, List.splitOn, List.splitOnP_cons_eq_if_modifyHead]
      simp only [beq_iff_eq]
      split
      · rfl
      · cases split : List.splitOnP (· == '/') path with
        | nil => exact absurd split (List.splitOnP_ne_nil _ _)
        | cons part rest => rfl

theorem intercalate_pathParts (path : List Char) : ['/'].intercalate (pathParts path) = path := by
  rw [pathParts_eq_splitOn, List.intercalate_splitOn]

theorem pathParts_intercalate {parts : List (List Char)} (whole : ∀ part ∈ parts, '/' ∉ part)
    (some : parts ≠ []) : pathParts (['/'].intercalate parts) = parts := by
  rw [pathParts_eq_splitOn, List.splitOn_intercalate '/' whole some]

theorem slash_notMem_of_mem_pathParts {path part : List Char} (mem : part ∈ pathParts path) :
    '/' ∉ part := by
  induction path generalizing part with
  | nil =>
      rw [List.mem_singleton.1 mem]
      exact List.not_mem_nil
  | cons c path ih =>
      rw [pathParts_cons] at mem
      split at mem
      next slash =>
          rcases List.mem_cons.1 mem with rfl | mem
          · exact List.not_mem_nil
          · exact ih mem
      next other =>
          cases parts : pathParts path with
          | nil =>
              rw [parts] at mem
              rw [List.mem_singleton.1 mem]
              simpa using Ne.symm other
          | cons first rest =>
              rw [parts] at mem ih
              rcases List.mem_cons.1 mem with rfl | mem
              · simpa [Ne.symm other] using ih List.mem_cons_self
              · exact ih (List.mem_cons_of_mem first mem)

theorem infix_intercalate_of_mem (sep : List Char) {part : List Char}
    {parts : List (List Char)} (mem : part ∈ parts) : part <:+: sep.intercalate parts := by
  induction parts with
  | nil => exact absurd mem List.not_mem_nil
  | cons first rest ih =>
      cases rest with
      | nil => rw [List.mem_singleton.1 mem, List.intercalate_singleton]
      | cons second rest =>
          rw [List.intercalate_cons_cons, List.append_assoc]
          rcases List.mem_cons.1 mem with rfl | mem
          · exact (List.prefix_append _ _).isInfix
          · exact (ih mem).trans (List.suffix_append_of_suffix (List.suffix_append _ _)).isInfix

theorem infix_part_of_infix_intercalate {text : List Char} {parts : List (List Char)}
    (content : text ≠ []) (whole : '/' ∉ text) (inside : text <:+: ['/'].intercalate parts) :
    ∃ part ∈ parts, text <:+: part := by
  induction parts with
  | nil => exact absurd (List.infix_nil.1 inside) content
  | cons first rest ih =>
      cases rest with
      | nil => exact ⟨first, List.mem_cons_self, by simpa using inside⟩
      | cons second rest =>
          rw [List.intercalate_cons_cons, List.append_assoc, List.singleton_append,
            List.infix_append_iff] at inside
          rcases inside with inFirst | later | ⟨front, back, rfl, inFirst, later⟩
          · exact ⟨first, List.mem_cons_self, inFirst⟩
          · rcases List.infix_cons_iff.1 later with atSlash | later
            · cases text with
              | nil => exact absurd rfl content
              | cons c text =>
                  obtain ⟨rfl, -⟩ := List.cons_prefix_cons.1 atSlash
                  exact absurd List.mem_cons_self whole
            · obtain ⟨part, mem, inside⟩ := ih later
              exact ⟨part, List.mem_cons_of_mem first mem, inside⟩
          · cases back with
            | nil => exact ⟨first, List.mem_cons_self, by simpa using inFirst.isInfix⟩
            | cons c back =>
                obtain ⟨rfl, -⟩ := List.cons_prefix_cons.1 later
                exact absurd (List.mem_append_right _ List.mem_cons_self) whole

/-- The parts that the clean spelling of a path keeps. -/
def cleanParts (path : List Char) : List (List Char) :=
  (pathParts path).filter fun part => part ≠ [] ∧ part ≠ ['.']

theorem mem_cleanParts {path part : List Char} :
    part ∈ cleanParts path ↔ part ∈ pathParts path ∧ part ≠ [] ∧ part ≠ ['.'] := by
  rw [cleanParts, List.mem_filter, decide_eq_true_eq]

def AreClean (parts : List (List Char)) : Prop :=
  ∀ part ∈ parts, (part ≠ [] ∧ part ≠ ['.']) ∧ '/' ∉ part

theorem areClean_cleanParts (path : List Char) : AreClean (cleanParts path) := by
  intro part mem
  obtain ⟨mem, kept⟩ := mem_cleanParts.1 mem
  exact ⟨kept, slash_notMem_of_mem_pathParts mem⟩

theorem rootOf_cases (path : List Char) :
    rootOf path = [] ∨ rootOf path = ['/'] ∨ rootOf path = ['/', '/'] := by
  unfold rootOf
  split <;> simp

theorem eq_slash_of_mem_rootOf {path : List Char} {c : Char} (mem : c ∈ rootOf path) :
    c = '/' := by
  rcases rootOf_cases path with root | root | root
  all_goals
    rw [root] at mem
    simp_all

theorem takeWhile_slash_of_isRelative {path : List Char} (relative : IsRelative path) :
    path.takeWhile (· = '/') = [] := by
  cases path with
  | nil => rfl
  | cons c path => exact List.takeWhile_cons_of_neg (by simpa [IsRelative] using relative)

theorem rootOf_of_isRelative {path : List Char} (relative : IsRelative path) :
    rootOf path = [] := by
  rw [rootOf, takeWhile_slash_of_isRelative relative]
  rfl

theorem rootOf_append (path : List Char) {body : List Char} (relative : IsRelative body) :
    rootOf (rootOf path ++ body) = rootOf path := by
  have slashes : (rootOf path ++ body).takeWhile (· = '/') = rootOf path := by
    rw [List.takeWhile_append_of_pos fun c mem => decide_eq_true (eq_slash_of_mem_rootOf mem),
      takeWhile_slash_of_isRelative relative, List.append_nil]
  rw [rootOf, slashes]
  rcases rootOf_cases path with root | root | root <;> rw [root] <;> rfl

theorem cleanParts_append {root : List Char} (slashes : ∀ c ∈ root, c = '/') (path : List Char) :
    cleanParts (root ++ path) = cleanParts path := by
  induction root with
  | nil => rfl
  | cons c root ih =>
      obtain ⟨rfl, others⟩ := List.forall_mem_cons.1 slashes
      rw [← ih others, List.cons_append, cleanParts, pathParts_cons, if_pos rfl,
        List.filter_cons_of_neg (by simp), cleanParts]

theorem cleanParts_intercalate {parts : List (List Char)} (clean : AreClean parts) :
    cleanParts (['/'].intercalate parts) = parts := by
  by_cases none : parts = []
  · rw [none]
    rfl
  · rw [cleanParts, pathParts_intercalate (fun part mem => (clean part mem).2) none]
    exact List.filter_eq_self.2 fun part mem => decide_eq_true (clean part mem).1

theorem intercalate_eq_nil_iff {parts : List (List Char)} (clean : AreClean parts) :
    ['/'].intercalate parts = [] ↔ parts = [] := by
  constructor
  · intro empty
    by_contra some
    obtain ⟨part, mem⟩ := List.exists_mem_of_ne_nil parts some
    have inside := infix_intercalate_of_mem ['/'] mem
    rw [empty] at inside
    exact (clean part mem).1.1 (List.infix_nil.1 inside)
  · rintro rfl
    rfl

theorem isRelative_intercalate {parts : List (List Char)} (clean : AreClean parts) :
    IsRelative (['/'].intercalate parts) := by
  cases parts with
  | nil => decide
  | cons first rest =>
      obtain ⟨⟨content, -⟩, whole⟩ := clean first List.mem_cons_self
      obtain ⟨c, text, rfl⟩ := List.exists_cons_of_ne_nil content
      cases rest with
      | nil =>
          rw [List.intercalate_singleton]
          exact fun same => whole (Option.some_inj.1 same ▸ List.mem_cons_self)
      | cons second rest =>
          rw [List.intercalate_cons_cons]
          exact fun same => whole (Option.some_inj.1 same ▸ List.mem_cons_self)

theorem toList_cleanPath (path : String) :
    (cleanPath path).toList =
      if rootOf path.toList = [] ∧ cleanParts path.toList = [] then ['.']
      else rootOf path.toList ++ ['/'].intercalate (cleanParts path.toList) := by
  have empty : ['/'].intercalate (cleanParts path.toList) = [] ↔ cleanParts path.toList = [] :=
    intercalate_eq_nil_iff (areClean_cleanParts _)
  have same : cleanPath path = if (rootOf path.toList).isEmpty ∧
      (['/'].intercalate (cleanParts path.toList)).isEmpty then "."
      else String.ofList (rootOf path.toList ++ ['/'].intercalate (cleanParts path.toList)) := rfl
  simp only [same, List.isEmpty_iff, empty]
  rw [apply_ite String.toList, String.toList_ofList, String.toList_ofList]

theorem cleanPath_ne_nil (path : String) : (cleanPath path).toList ≠ [] := by
  rw [toList_cleanPath]
  split
  next => exact List.cons_ne_nil _ _
  next some =>
      rw [Ne, List.append_eq_nil_iff, intercalate_eq_nil_iff (areClean_cleanParts _)]
      exact some

theorem rootOf_cleanPath (path : String) : rootOf (cleanPath path).toList = rootOf path.toList := by
  rw [toList_cleanPath]
  split
  next none =>
      rw [none.1]
      rfl
  next => exact rootOf_append _ (isRelative_intercalate (areClean_cleanParts _))

theorem cleanParts_cleanPath (path : String) :
    cleanParts (cleanPath path).toList = cleanParts path.toList := by
  rw [toList_cleanPath]
  split
  next none =>
      rw [none.2]
      rfl
  next =>
      rw [cleanParts_append fun c => eq_slash_of_mem_rootOf,
        cleanParts_intercalate (areClean_cleanParts _)]

theorem cleanPath_cleanPath (path : String) : cleanPath (cleanPath path) = cleanPath path := by
  rw [← String.toList_inj, toList_cleanPath, rootOf_cleanPath, cleanParts_cleanPath,
    ← toList_cleanPath]

theorem infix_of_infix_cleanPath {path : String} {text : List Char} (content : text ≠ [])
    (whole : '/' ∉ text) (inside : text <:+: (cleanPath path).toList) :
    text = ['.'] ∨ text <:+: path.toList := by
  obtain ⟨c, rest, rfl⟩ := List.exists_cons_of_ne_nil content
  rw [toList_cleanPath] at inside
  split at inside
  next =>
      left
      rcases List.infix_cons_iff.1 inside with atDot | later
      · obtain ⟨rfl, rest⟩ := List.cons_prefix_cons.1 atDot
        rw [List.prefix_nil.1 rest]
      · exact absurd (List.infix_nil.1 later) content
  next =>
      right
      have noRoot (mem : c ∈ rootOf path.toList) : False :=
        whole (eq_slash_of_mem_rootOf mem ▸ List.mem_cons_self)
      have inBody : c :: rest <:+: ['/'].intercalate (cleanParts path.toList) := by
        rcases List.infix_append_iff.1 inside with
          inRoot | inBody | ⟨front, back, same, last, first⟩
        · exact (noRoot (inRoot.subset List.mem_cons_self)).elim
        · exact inBody
        · cases front with
          | nil => exact same ▸ first.isInfix
          | cons d front =>
              cases same
              exact (noRoot (last.subset List.mem_cons_self)).elim
      obtain ⟨part, mem, inPart⟩ := infix_part_of_infix_intercalate content whole inBody
      have inPath := infix_intercalate_of_mem ['/'] (mem_cleanParts.1 mem).1
      rw [intercalate_pathParts] at inPath
      exact inPart.trans inPath

theorem notMem_cleanPath {path : String} {c : Char} (noSlash : c ≠ '/') (noDot : c ≠ '.')
    (absent : c ∉ path.toList) : c ∉ (cleanPath path).toList := by
  intro mem
  rcases infix_of_infix_cleanPath (List.cons_ne_nil c [])
    (by simpa using Ne.symm noSlash) ((List.singleton_infix_iff _ _).2 mem) with dot | inPath
  · exact noDot (List.singleton_inj.1 dot)
  · exact absent ((List.singleton_infix_iff _ _).1 inPath)

theorem find?_cleanPath (files : Files) (path : String) :
    files.find? (cleanPath path) = files.find? path := by
  rw [Files.find?, Files.find?, cleanPath_cleanPath]

/-! ## Paths that name a host -/

/-- Two slashes and no more stand at the front. In an address a host follows them. -/
def NamesHost (path : List Char) : Prop := rootOf path = ['/', '/']

instance (path : List Char) : Decidable (NamesHost path) :=
  inferInstanceAs (Decidable (rootOf path = ['/', '/']))

theorem IsRelative.not_namesHost {path : List Char} (relative : IsRelative path) :
    ¬ NamesHost path := by
  rw [NamesHost, rootOf_of_isRelative relative]
  exact List.cons_ne_nil _ _ ∘ Eq.symm

theorem not_prefix_of_isRelative {text : List Char} (relative : IsRelative text)
    (rest : List Char) :
    ¬ '/' :: rest <+: text := by
  rintro ⟨after, rfl⟩
  exact relative rfl

theorem not_prefix_rooted {text : List Char} (relative : IsRelative text) :
    ¬ ['/', '/'] <+: '/' :: text := by
  rw [List.cons_prefix_cons]
  exact fun host => not_prefix_of_isRelative relative [] host.2

theorem not_prefix_cleanPath {path : String} (noHost : ¬ NamesHost path.toList) :
    ¬ ['/', '/'] <+: (cleanPath path).toList := by
  have relative := isRelative_intercalate (areClean_cleanParts path.toList)
  rw [toList_cleanPath]
  split
  next => decide
  next =>
      rcases rootOf_cases path.toList with root | root | root
      · rw [root]
        exact not_prefix_of_isRelative relative ['/']
      · rw [root, List.singleton_append]
        exact not_prefix_rooted relative
      · exact absurd root noHost

theorem NamesHost.toList_cleanPath {path : String} (host : NamesHost path.toList) :
    (cleanPath path).toList = '/' :: '/' :: ['/'].intercalate (cleanParts path.toList) := by
  have rooted : ¬ (rootOf path.toList = [] ∧ cleanParts path.toList = []) := by
    rw [host]
    exact fun none => List.cons_ne_nil _ _ none.1
  rw [Database.toList_cleanPath, if_neg rooted, host]
  rfl

theorem toList_cleanPath_rooted {parts : List (List Char)} (clean : AreClean parts) :
    (cleanPath (String.ofList ('/' :: ['/'].intercalate parts))).toList =
      '/' :: ['/'].intercalate parts := by
  have relative := isRelative_intercalate clean
  have root : rootOf ('/' :: ['/'].intercalate parts) = ['/'] := by
    rw [rootOf, List.takeWhile_cons_of_pos rfl, takeWhile_slash_of_isRelative relative]
    rfl
  have kept : cleanParts ('/' :: ['/'].intercalate parts) = parts :=
    (cleanParts_append (by simp : ∀ c ∈ ['/'], c = '/') _).trans (cleanParts_intercalate clean)
  rw [toList_cleanPath, String.toList_ofList, root, kept, if_neg fun none => nomatch none.1]
  rfl

end Liveness.Database
