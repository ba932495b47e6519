import DocSurvey.Data.JsonReader
import Mathlib.Data.List.Nodup

/-! Records in JSON. Main statements: an object with a member of the right kind for each field holds
the record of their values, and one that lacks a field of a complete record is refused.
-/

namespace DocSurvey.Data

/-- A field of a record, the member of an object that stands for it and the value of that member. -/
structure Filled where
  name : String
  kind : Kind
  json : Json
  value : Value

namespace Filled

/-- The member is of the kind of its field. -/
def Holds (part : Filled) : Prop :=
  readJson part.kind part.json = .ok part.value

def field (part : Filled) : String × Kind :=
  (part.name, part.kind)

def member (part : Filled) : String × Json :=
  (part.name, part.json)

def entry (part : Filled) : String × Value :=
  (part.name, part.value)

end Filled

/-- Each field of a record is looked up under its own name, by induction over the fields. -/
theorem readMembers_eq_map (fields : List (String × Kind)) (members : List (String × Json))
    : readMembers fields members
      = fields.map fun field =>
          (field.1, (Json.lookup members field.1).map (readJson field.2)) := by
  induction fields with
  | nil => rfl
  | cons field rest ih => simp [readMembers, ih]

/-- Where names are distinct, the member of a name is the one in the list. -/
theorem lookup_of_mem {members : List (String × Json)} {name : String} {json : Json}
    (distinct : (members.map Prod.fst).Nodup) (member : (name, json) ∈ members)
    : Json.lookup members name = some json := by
  unfold Json.lookup
  have among : (name, json) ∈ members.reverse := List.mem_reverse.mpr member
  cases found : members.reverse.find? (·.1 == name) with
  | none => exact absurd (List.find?_eq_none.mp found _ among) (by simp)
  | some other =>
      have same : other.1 = name := by simpa using List.find?_some found
      have otherAmong := List.mem_reverse.mp (List.mem_of_find?_eq_some found)
      have equal := List.inj_on_of_nodup_map distinct otherAmong member same
      simp [equal]

/-- Fields without a fault among them leave none to report. -/
theorem firstFault_of_present (complete : Bool)
    {readings : List (String × Option (Except Error Value))}
    (present : ∀ reading ∈ readings, ∃ value, reading.2 = some (.ok value))
    : firstFault complete readings = none := by
  simp only [firstFault]
  split
  · rename_i e fault
    obtain ⟨reading, member, isFault⟩ := List.exists_of_findSome?_eq_some fault
    obtain ⟨value, holds⟩ := present reading (List.mem_mergeSort.mp member)
    simp [holds] at isFault
  · rename_i name reading noFault missing
    obtain ⟨value, holds⟩ := present _ (List.mem_of_find?_eq_some missing)
    have absent : reading = none := by simpa using List.find?_some missing
    simp [absent] at holds
  · rfl

/-- A record that must be complete has a fault where a field is missing. -/
theorem firstFault_of_missing {readings : List (String × Option (Except Error Value))}
    {name : String} (missing : (name, none) ∈ readings)
    : (firstFault true readings).isSome := by
  simp only [firstFault]
  split
  · rfl
  · rfl
  · rename_i noneMissing
    exact absurd rfl (List.find?_eq_none.mp noneMissing _ missing)

/-- An object with a member for each field holds the record of their values. -/
theorem readJson_record (label : String) (complete : Bool) {parts : List Filled}
    (distinct : (parts.map Filled.name).Nodup) (holds : ∀ part ∈ parts, part.Holds)
    : readJson (.record label complete (parts.map Filled.field)) (.object (parts.map Filled.member))
      = .ok (.record (parts.map Filled.entry)) := by
  have readings : readMembers (parts.map Filled.field) (parts.map Filled.member)
      = parts.map fun part => (part.name, some (.ok part.value)) := by
    rw [readMembers_eq_map, List.map_map]
    refine List.map_congr_left fun part among => ?_
    have names : (parts.map Filled.member).map Prod.fst = parts.map Filled.name := by
      rw [List.map_map]
      rfl
    have member : (part.name, part.json) ∈ parts.map Filled.member := List.mem_map_of_mem among
    have found := lookup_of_mem (names ▸ distinct) member
    have read : readJson part.kind part.json = .ok part.value := holds part among
    simp [Filled.field, found, read]
  have noFault : firstFault complete (parts.map fun part => (part.name, some (.ok part.value)))
      = none := by
    refine firstFault_of_present complete fun reading member => ?_
    obtain ⟨part, _, rfl⟩ := List.mem_map.mp member
    exact ⟨part.value, rfl⟩
  have values : presentValues (parts.map fun part => (part.name, some (.ok part.value)))
      = parts.map Filled.entry := by
    rw [presentValues, List.filterMap_map, ← List.filterMap_eq_map]
    rfl
  rw [readJson]
  simp only [readings, noFault, values]

/-- An object that lacks a field of a complete record is refused. -/
theorem readJson_record_of_missing (label : String) {fields : List (String × Kind)}
    {members : List (String × Json)} {field : String × Kind} (isField : field ∈ fields)
    (missing : Json.lookup members field.1 = none)
    : ∃ e, readJson (.record label true fields) (.object members) = .error e := by
  have among : (field.1, none) ∈ readMembers fields members := by
    rw [readMembers_eq_map]
    exact List.mem_map.mpr ⟨field, isField, by simp [missing]⟩
  obtain ⟨e, fault⟩ := Option.isSome_iff_exists.mp (firstFault_of_missing among)
  exact ⟨e, by simp [readJson, fault]⟩

end DocSurvey.Data
