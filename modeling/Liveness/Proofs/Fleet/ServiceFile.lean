import Liveness.Fleet.ServiceFile
import Liveness.Proofs.Database.Paths
import Liveness.Proofs.Fleet.Repeats
import Liveness.Proofs.Text.Utf8
import Liveness.Proofs.Yaml.Telling

namespace Liveness.Fleet

open Yaml (Item Values)

def ListsServices (document : Option Values) (v : Values) (items : List Item) : Prop :=
  document = some v ∧ ∃ pairs n, v.value? v.root = some (.map pairs) ∧
    pairs.lookup (.text "services") = some n ∧ v.items? n = some items

variable {document : Option Values} {v : Values} {items before after : List Item} {item : Item}
variable {disk : Disk} {load : Yaml.Loader} {path name : String} {content : List UInt8}
variable {text : List Char} {texts : List String}

theorem serviceItems?_eq_some_iff :
    serviceItems? document = some items ↔ ∃ v, ListsServices document v items := by
  cases document with
  | none => simp [serviceItems?, ListsServices]
  | some v =>
      have key {n : Nat} : v.get? v.root "services" = some n ↔ ∃ pairs,
          v.value? v.root = some (.map pairs) ∧ pairs.lookup (.text "services") = some n := by
        unfold Values.get?
        split
        next pairs found => simp [found]
        next other => simpa using fun pairs found => absurd found (other pairs)
      simp only [serviceItems?, ListsServices, Option.bind_eq_bind, Option.bind_some,
        Option.bind_eq_some_iff, key, Option.some.injEq, exists_eq_left', ← exists_and_right,
        and_assoc]
      exact exists_comm

theorem ListsServices.serviceItems (listed : ListsServices document v items) :
    serviceItems? document = some items :=
  serviceItems?_eq_some_iff.2 ⟨v, listed⟩

/-! ## Texts until one fails -/

theorem textsUntilFailure_ok (texts : List String) :
    textsUntilFailure (texts.map .ok) = (texts, none) := by
  induction texts with
  | nil => rfl
  | cons text texts ih => rw [List.map_cons, textsUntilFailure, ih]

theorem textsUntilFailure_error (texts : List String) (failure : Failure)
    (rest : List (Except Failure String)) :
    textsUntilFailure (texts.map .ok ++ .error failure :: rest) = (texts, some failure) := by
  induction texts with
  | nil => rfl
  | cons text texts ih => rw [List.map_cons, List.cons_append, textsUntilFailure, ih]

theorem texts_or_untold (v : Values) (items : List Item) :
    (∃ texts : List String, items.map v.itemText = texts.map .ok) ∨
      ∃ before item after, ∃ texts : List String, items = before ++ item :: after ∧
        before.map v.itemText = texts.map .ok ∧ v.IsUntold item := by
  induction items with
  | nil => exact .inl ⟨[], rfl⟩
  | cons item items ih =>
      cases told : v.itemText item with
      | error failure =>
          exact .inr ⟨[], item, items, [], rfl, rfl, (Values.itemText_eq_error_iff.1 told).1⟩
      | ok text =>
          rcases ih with ⟨texts, all⟩ | ⟨before, untold, after, texts, rfl, told', long⟩
          · exact .inl ⟨text :: texts, by rw [List.map_cons, List.map_cons, told, all]⟩
          · refine .inr ⟨item :: before, untold, after, text :: texts, rfl, ?_, long⟩
            rw [List.map_cons, List.map_cons, told, told']

theorem not_isUntold_of_texts (told : items.map v.itemText = texts.map .ok) :
    ∀ item ∈ items, ¬ v.IsUntold item := by
  intro item mem
  have mem' : v.itemText item ∈ texts.map .ok := told ▸ List.mem_map_of_mem mem
  obtain ⟨text, -, same⟩ := List.mem_map.1 mem'
  exact Values.isOk_itemText_iff.1 (isOk_of_eq_ok same.symm)

/-! ## Files -/

theorem loadServices_file (here : disk.present (Database.cleanPath path) = .ok true)
    (found : disk.read path = .ok content) :
    loadServices disk load (some path) = servicesOf load path content := by
  simp only [loadServices, here, found]

theorem loadServices_refused {failure : Failure}
    (refused : disk.present (Database.cleanPath path) = .error failure) :
    loadServices disk load (some path) = (.error failure, []) := by
  simp only [loadServices, refused]

theorem servicesOf_ne_silent (load : Yaml.Loader) (path : String) (content : List UInt8)
    (names : List String) : servicesOf load path content ≠ (.ok names, []) := by
  unfold servicesOf
  split
  next => simp
  next results told =>
      obtain ⟨good, failure⟩ := textsUntilFailure results
      cases failure with
      | none => simp
      | some failure => simp

def IsMissing (disk : Disk) (path : Option String) : Prop :=
  ∀ name, path = some name → disk.present (Database.cleanPath name) = .ok false

theorem IsMissing.loadServices {path : Option String} (missing : IsMissing disk path)
    (read : String → Except Failure (List UInt8)) (load : Yaml.Loader) :
    loadServices { disk with read } load path = (.ok defaultServices, []) := by
  cases path with
  | none => rfl
  | some name => simp only [Fleet.loadServices, missing name rfl]

theorem loadServices_eq_default_iff (disk : Disk) (load : Yaml.Loader) (path : Option String) :
    loadServices disk load path = (.ok defaultServices, []) ↔ IsMissing disk path := by
  refine ⟨?_, fun missing => missing.loadServices disk.read load⟩
  rintro silent name rfl
  cases here : disk.present (Database.cleanPath name) with
  | error failure => simp [loadServices, here] at silent
  | ok found =>
      cases found with
      | false => rfl
      | true =>
          cases opened : disk.read name with
          | error failure => simp [loadServices, here, opened] at silent
          | ok content =>
              rw [loadServices_file here opened] at silent
              exact absurd silent (servicesOf_ne_silent load name content _)

section
variable (decoded : Text.utf8Decode? content = some text)
  (loaded : load (unifyLineEnds text) = .ok document)
include decoded loaded

theorem serviceTexts_listed (listed : ListsServices document v items) :
    serviceTexts load path content = .ok (items.map v.itemText) := by
  obtain ⟨rfl, -⟩ := id listed
  simp [serviceTexts, decoded, loaded, listed.serviceItems, bind, Except.bind, pure, Except.pure]

theorem servicesOf_unlisted (unlisted : ∀ v items, ¬ ListsServices document v items) :
    servicesOf load path content = (.error (noServices path), []) := by
  have none_listed : serviceItems? document = none := by
    rw [Option.eq_none_iff_forall_ne_some]
    intro items listed
    obtain ⟨v, listed⟩ := serviceItems?_eq_some_iff.1 listed
    exact unlisted v items listed
  have failed : serviceTexts load path content = .error (noServices path) := by
    simp [serviceTexts, decoded, loaded, none_listed, bind, Except.bind]
  rw [servicesOf, failed]

theorem servicesOf_told (listed : ListsServices document v items)
    (told : items.map v.itemText = texts.map .ok) :
    servicesOf load path content = (.ok (firstOnes texts),
      (laterOnes texts).map repeatWarning ++ [loadedLog (firstOnes texts).length path]) := by
  rw [servicesOf, serviceTexts_listed decoded loaded listed, told]
  simp only [textsUntilFailure_ok, uniqueServices_eq]

theorem servicesOf_untold (listed : ListsServices document v (before ++ item :: after))
    (told : before.map v.itemText = texts.map .ok) (long : v.IsUntold item) :
    servicesOf load path content = (.error Yaml.tooLong, (laterOnes texts).map repeatWarning) := by
  have failed := Values.itemText_eq_error_iff.2 ⟨long, rfl⟩
  rw [servicesOf, serviceTexts_listed decoded loaded listed, List.map_append, List.map_cons, told,
    failed]
  simp only [textsUntilFailure_error, uniqueServices_eq]

theorem isOk_servicesOf_iff : (servicesOf load path content).1.isOk = true ↔
    ∃ v items, ListsServices document v items ∧ ∀ item ∈ items, ¬ v.IsUntold item := by
  by_cases unlisted : ∀ v items, ¬ ListsServices document v items
  · rw [servicesOf_unlisted decoded loaded unlisted]
    simp [Except.isOk, Except.toBool, unlisted]
  · simp only [not_forall, not_not] at unlisted
    obtain ⟨v, items, listed⟩ := unlisted
    have only (v' : Values) (items' : List Item) (listed' : ListsServices document v' items') :
        v' = v ∧ items' = items := by
      have same := listed'.1.symm.trans listed.1
      have same' := listed'.serviceItems.symm.trans listed.serviceItems
      exact ⟨Option.some.inj same, Option.some.inj same'⟩
    rcases texts_or_untold v items with
      ⟨texts, told⟩ | ⟨before, item, after, texts, rfl, told, long⟩
    · rw [servicesOf_told decoded loaded listed told]
      exact iff_of_true rfl ⟨v, items, listed, not_isUntold_of_texts told⟩
    · rw [servicesOf_untold decoded loaded listed told long]
      refine iff_of_false Bool.false_ne_true ?_
      rintro ⟨v', items', listed', none_long⟩
      obtain ⟨rfl, rfl⟩ := only v' items' listed'
      exact none_long item (by simp) long

end

theorem exists_document_of_isOk (done : (servicesOf load path content).1.isOk = true) :
    ∃ text document, Text.utf8Decode? content = some text ∧
      load (unifyLineEnds text) = .ok document := by
  cases decoded : Text.utf8Decode? content with
  | none => simp [servicesOf, serviceTexts, decoded, Except.isOk, Except.toBool] at done
  | some text =>
      cases loaded : load (unifyLineEnds text) with
      | error fault =>
          simp [servicesOf, serviceTexts, decoded, loaded, bind, Except.bind, Except.isOk,
            Except.toBool] at done
      | ok document => exact ⟨text, document, rfl, loaded⟩

/-- The default list counts without a path, and where nothing stands under it, with nothing read. A
file comes to names just if it holds a document that lists its items and none of these holds a
number of too many digits; the names are the texts of the items then, each where it comes first. -/
theorem loadServices_follows_document (disk : Disk) (load : Yaml.Loader) :
    (∀ path, loadServices disk load path = (.ok defaultServices, []) ↔ IsMissing disk path) ∧
    (∀ path, IsMissing disk path → ∀ read load',
      loadServices { disk with read } load' path = (.ok defaultServices, [])) ∧
    Database.cleanPath "" = "." ∧
    (∀ name failure, disk.present (Database.cleanPath name) = .error failure →
      loadServices disk load (some name) = (.error failure, [])) ∧
    ∀ name, disk.present (Database.cleanPath name) = .ok true →
      (∀ failure, disk.read name = .error failure →
        loadServices disk load (some name) = (.error failure, [])) ∧
      ∀ content, disk.read name = .ok content →
        ((loadServices disk load (some name)).1.isOk = true ↔ ∃ text document v items,
          Text.utf8Decode? content = some text ∧ load (unifyLineEnds text) = .ok document ∧
          ListsServices document v items ∧ ∀ item ∈ items, ¬ v.IsUntold item) ∧
        ∀ text document, Text.utf8Decode? content = some text →
          load (unifyLineEnds text) = .ok document →
          (∀ v items texts, ListsServices document v items →
            items.map v.itemText = texts.map .ok →
            loadServices disk load (some name) = (.ok (firstOnes texts),
              (laterOnes texts).map repeatWarning ++ [loadedLog (firstOnes texts).length name])) ∧
          (∀ v before item after texts, ListsServices document v (before ++ item :: after) →
            before.map v.itemText = texts.map .ok → v.IsUntold item →
            loadServices disk load (some name) =
              (.error Yaml.tooLong, (laterOnes texts).map repeatWarning)) ∧
          ((∀ v items, ¬ ListsServices document v items) → loadServices disk load (some name) =
            (.error (.of .value s!"{name}: expected a 'services' list"), [])) := by
  refine ⟨loadServices_eq_default_iff disk load, fun path missing => missing.loadServices,
    by decide, fun name failure refused => loadServices_refused refused,
    fun name here => ⟨fun failure refused => ?_, fun content found => ?_⟩⟩
  · simp only [loadServices, here, refused]
  · rw [loadServices_file here found]
    constructor
    · constructor
      · intro done
        obtain ⟨text, document, decoded, loaded⟩ := exists_document_of_isOk done
        obtain ⟨v, items, listed⟩ := (isOk_servicesOf_iff decoded loaded).1 done
        exact ⟨text, document, v, items, decoded, loaded, listed⟩
      · rintro ⟨text, document, v, items, decoded, loaded, listed⟩
        exact (isOk_servicesOf_iff decoded loaded).2 ⟨v, items, listed⟩
    · intro text document decoded loaded
      exact ⟨fun v items texts listed told => servicesOf_told decoded loaded listed told,
        fun v before item after texts listed told long =>
          servicesOf_untold decoded loaded listed told long,
        servicesOf_unlisted decoded loaded⟩

def repeatedListing : String := "services: [b, a, 7, b, '7', yes]\n"

def repeatedValues : Values where
  nodes := #[some (.map [(.text "services", 2)]), some (.scalar (.text "services")),
    some (.list [3, 4, 5, 6, 7, 8]), some (.scalar (.text "b")), some (.scalar (.text "a")),
    some (.scalar (.integer 7)), some (.scalar (.text "b")), some (.scalar (.text "7")),
    some (.scalar (.bool true))]
  root := 0

theorem loadServices_follows_document_repeated :
    let content := repeatedListing.toUTF8.toList
    let disk := FileEntries.disk [("services.yaml", .file content)]
    disk.present (Database.cleanPath "./services.yaml") = .ok true ∧
      disk.read "./services.yaml" = .ok content ∧
      Text.utf8Decode? content = some repeatedListing.toList ∧
      Yaml.loader (unifyLineEnds repeatedListing.toList) = .ok (some repeatedValues) ∧
      loadServices disk Yaml.loader (some "./services.yaml") = (.ok ["b", "a", "7", "True"],
        [repeatWarning "b", repeatWarning "7", loadedLog 4 "./services.yaml"]) ∧
      loadServices disk Yaml.loader (some "services.yml") = (.ok defaultServices, []) := by
  intro content disk
  have here : disk.present (Database.cleanPath "./services.yaml") = .ok true := by decide +kernel
  have found : disk.read "./services.yaml" = .ok content := by decide +kernel
  have decoded : Text.utf8Decode? content = some repeatedListing.toList := by decide +kernel
  have loaded : Yaml.loader (unifyLineEnds repeatedListing.toList) = .ok (some repeatedValues) := by
    decide +kernel
  have listed : ListsServices (some repeatedValues) repeatedValues
      ([3, 4, 5, 6, 7, 8].map Item.node) := ⟨rfl, _, 2, rfl, rfl, rfl⟩
  have told : ([3, 4, 5, 6, 7, 8].map Item.node).map repeatedValues.itemText =
      ["b", "a", "7", "b", "7", "True"].map .ok := by decide +kernel
  have missing : IsMissing disk (some "services.yml") := by
    intro name same
    rw [← Option.some.inj same]
    decide +kernel
  obtain ⟨defaults, -, -, -, files⟩ := loadServices_follows_document disk Yaml.loader
  obtain ⟨-, documents⟩ := (files _ here).2 content found
  obtain ⟨outcome, -⟩ := documents _ _ decoded loaded
  exact ⟨here, found, decoded, loaded, outcome _ _ _ listed told, (defaults _).2 missing⟩

def longListing (zeros : Nat) : List Char :=
  "services: [0x1".toList ++ List.replicate zeros '0' ++ [']']

def longValues (zeros : Nat) : Values where
  nodes := #[some (.map [(.text "services", 2)]), some (.scalar (.text "services")),
    some (.list [3]), some (.scalar (.integer (16 ^ zeros : Nat)))]
  root := 0

theorem disk_present (entries : FileEntries) (path : String) :
    entries.disk.present path = entries.present path := rfl

theorem present_of_long (entries : FileEntries) {letters : List Char} (whole : '/' ∉ letters)
    (long : FileEntries.nameLimit < (Text.utf8Encode letters).length) :
    entries.disk.present (Database.cleanPath (String.ofList letters)) =
      .error (FileEntries.nameTooLong (String.ofList letters)) := by
  have short {few : List Char} (few_le : (Text.utf8Encode few).length ≤ FileEntries.nameLimit) :
      letters ≠ few := by
    rintro rfl
    exact absurd long (not_lt.2 few_le)
  have clean : Database.AreClean [letters] := by
    intro part mem
    rw [List.mem_singleton.1 mem]
    exact ⟨⟨short (by decide), short (by decide)⟩, whole⟩
  have relative := Database.isRelative_intercalate clean
  have parts := Database.cleanParts_intercalate clean
  have split := Database.pathParts_intercalate (fun part mem => (clean part mem).2)
    (List.cons_ne_nil letters [])
  rw [List.intercalate_singleton] at relative parts split
  have some : ¬ ([] = ([] : List Char) ∧ [letters] = []) := fun none => nomatch none.2
  have same : Database.cleanPath (String.ofList letters) = String.ofList letters := by
    rw [← String.toList_inj, Database.toList_cleanPath, String.toList_ofList,
      Database.rootOf_of_isRelative relative, parts, if_neg some, List.nil_append,
      List.intercalate_singleton]
  have walk : (List.range 1).map (fun k => [letters].take (k + 1)) = [[letters]] := rfl
  rw [same, disk_present]
  simp only [FileEntries.present, String.toList_ofList, split, List.length_singleton, walk,
    List.find?_cons, List.getLast?_singleton, Option.any_some, long, decide_true, Bool.true_or,
    if_true]

def longName : List Char := List.replicate 300 'a'

/-- A listed number of too many digits is no service, whatever it is spelled like, and a path that
is too long for the system is not one of a missing file. -/
theorem long_number_not_loaded :
    Yaml.loader (longListing 9) = .ok (some (longValues 9)) ∧
    ListsServices (some (longValues 3600)) (longValues 3600) [.node 3] ∧
    (let disk := FileEntries.disk [("services.yaml", .file (Text.utf8Encode (longListing 3600)))]
    let load : Yaml.Loader := fun _ => .ok (some (longValues 3600))
    loadServices disk load (some "services.yaml") = (.error Yaml.tooLong, [])) ∧
    loadServices (FileEntries.disk []) Yaml.loader (some (String.ofList longName)) =
      (.error (FileEntries.nameTooLong (String.ofList longName)), []) := by
  have listed : ListsServices (some (longValues 3600)) (longValues 3600)
      ([] ++ Item.node 3 :: []) := ⟨rfl, _, 2, rfl, rfl, rfl⟩
  have long : (longValues 3600).IsUntold (.node 3) := by
    refine ⟨3, List.mem_singleton_self 3, .integer (16 ^ 3600 : Nat), ?_, ?_⟩
    · exact .here rfl (List.mem_singleton_self _)
    · rw [Yaml.Scalar.IsTooLong, Int.natAbs_natCast]
      decide +kernel
  have none_before : ([] : List Item).map (longValues 3600).itemText =
      ([] : List String).map .ok := rfl
  refine ⟨by decide +kernel, listed, ?_, ?_⟩
  · intro disk load
    have here : disk.present (Database.cleanPath "services.yaml") = .ok true := by decide +kernel
    have found : disk.read "services.yaml" = .ok (Text.utf8Encode (longListing 3600)) := rfl
    rw [loadServices_file here found]
    exact servicesOf_untold (Text.utf8Decode?_utf8Encode _) rfl listed none_before long
  · have whole : '/' ∉ longName := fun mem =>
      absurd (List.eq_of_mem_replicate mem) (by decide)
    have long : FileEntries.nameLimit < (Text.utf8Encode longName).length := by
      rw [Text.utf8Encode, List.length_flatMap, longName, List.map_replicate,
        List.sum_replicate_nat]
      decide
    exact loadServices_refused (present_of_long [] whole long)

end Liveness.Fleet
