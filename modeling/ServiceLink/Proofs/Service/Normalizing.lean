import ServiceLink.Proofs.Json.Rendering
import ServiceLink.Proofs.Service.Recovering

/-! Descriptions of services in their normal form. What was read of a description, however loosely it was written, is
written again so that the same is read, and what could not be read in it might as well not have been there. -/

namespace ServiceLink

open Json (TablesAlike)

theorem Dict.contains_ofList {α : Type} {entries : List (String × α)} {key : String} :
    (Dict.ofList entries).contains key ↔ key ∈ entries.map (·.1) := by
  rw [Dict.contains, Option.isSome_iff_ne_none]
  refine ⟨not_imp_comm.1 fun hkey => ?_, Entries.find?_ofList_ne_none⟩
  have hnone : Entries.find? key (Entries.ofList ([] ++ entries)) = none := Entries.find?_ofList_append hkey
  exact hnone

namespace Schema

variable {s : Schema} {j : Json}

/-! ### Writing -/

/-- A description is written down: its version as a text, if it has one, and its methods and properties entry by
entry, each as a record. -/
structure IsWritten (s : Schema) (j : Json) : Prop where
  version : j.get? "version" = s.version.map .text
  methods : ∃ k, j.get? "methods" = some k ∧
    TablesAlike (.ofFields MethodSignature.fields) k (methodsToJson s.methods)
  properties : ∃ k, j.get? "properties" = some k ∧
    TablesAlike (.ofFields PropertyDescriptor.fields) k (propertiesToJson s.properties)

def toJson (s : Schema) : Json :=
  .record [("version", s.version.map .text), ("methods", some (methodsToJson s.methods)),
    ("properties", some (propertiesToJson s.properties))]

theorem isWritten_toJson (s : Schema) : s.IsWritten s.toJson := by
  have hget : s.toJson.get? "version" = s.version.map .text ∧ s.toJson.get? "methods" = some (methodsToJson s.methods) ∧
      s.toJson.get? "properties" = some (propertiesToJson s.properties) := by
    rw [toJson]
    cases s.version <;> exact ⟨rfl, rfl, rfl⟩
  obtain ⟨hversion, hmethods, hproperties⟩ := hget
  exact {
    version := hversion
    methods := ⟨_, hmethods, Json.tablesAlike_self (fun _ => Json.alike_self _ _) s.methods⟩
    properties := ⟨_, hproperties, Json.tablesAlike_self (fun _ => Json.alike_self _ _) s.properties⟩ }

theorem readMethods_of_alike {methods : Dict MethodSignature}
    (h : TablesAlike (.ofFields MethodSignature.fields) j (methodsToJson methods)) :
    readMethods (some j) = methods := by
  have hlist := h.ofList_eq (fun _ k => some ((MethodSignature.ofJson? k).getD {})) fun _ m k hk =>
    congrArg (fun m? => some (m?.getD {})) (m.recovers k hk)
  obtain ⟨members, -, hj, -⟩ := h
  cases j with
  | object _ =>
    cases hj
    simpa [Json.members?, readMethods] using hlist
  | null | bool | number | text | array => cases hj

theorem readProperties_of_alike {properties : Dict PropertyDescriptor}
    (h : TablesAlike (.ofFields PropertyDescriptor.fields) j (propertiesToJson properties)) :
    readProperties (some j) = properties := by
  have hlist := h.ofList_eq (fun _ => PropertyDescriptor.ofJson?) fun _ => PropertyDescriptor.recovers
  obtain ⟨members, -, hj, -⟩ := h
  cases j with
  | object _ =>
    cases hj
    exact hlist
  | null | bool | number | text | array => cases hj

/-- The version is given, or the version property gives none. -/
def IsSettled (s : Schema) : Prop :=
  s.version.or ((s.properties.find? versionProperty).bind fun p => versionText? p.value) = s.version

theorem isSettled_read (j : Json) : (read j).IsSettled := by
  simp only [IsSettled, read, Option.or_assoc, Option.or_self]

theorem IsSettled.read_of_isWritten (h : s.IsSettled) (hj : s.IsWritten j) : read j = s := by
  obtain ⟨methods, hmethods, hlike⟩ := hj.methods
  obtain ⟨properties, hproperties, hlike'⟩ := hj.properties
  have hversion : (j.get? "version").bind versionText? = s.version := by
    rw [hj.version]
    cases s.version <;> rfl
  simp only [read, hversion, hmethods, hproperties, readMethods_of_alike hlike, readProperties_of_alike hlike']
  rw [h]

/-! ### Methods -/

theorem hasMethod_read_object {members : List (String × Json)} (h : j.get? "methods" = some (.object members))
    {name : String} : (read j).hasMethod name ↔ name ∈ members.map (·.1) := by
  rw [hasMethod, read, h, readMethods, Dict.contains_ofList, List.map_map]
  rfl

theorem hasMethod_read_array {elements : List Json} (h : j.get? "methods" = some (.array elements)) {name : String} :
    (read j).hasMethod name ↔ .text name ∈ elements := by
  have htext : ∀ k : Json, k.text? = some name ↔ k = .text name := by
    intro k
    cases k <;> simp [Json.text?]
  rw [hasMethod, read, h, readMethods, Dict.contains_ofList, List.map_map]
  simp [htext]

/-! ### Properties taken out -/

def withoutProperty (name : String) (j : Json) : Json :=
  match j.get? "properties" with
  | some (.object members) => j.withMember "properties" (.object (members.filter (·.1 ≠ name)))
  | _ => j

theorem readProperties_filter {members : List (String × Json)} {name : String}
    (h : (readProperties (some (.object members))).contains name = false) :
    readProperties (some (.object (members.filter (·.1 ≠ name)))) = readProperties (some (.object members)) := by
  have hnone : ∀ m ∈ members, m.1 = name → PropertyDescriptor.ofJson? m.2 = none := by
    rintro m hm rfl
    rw [readProperties, Bool.eq_false_iff, Ne, Dict.contains_ofList] at h
    refine Option.eq_none_iff_forall_ne_some.2 fun p hp => h ?_
    exact List.mem_map.2 ⟨(m.1, p), List.mem_filterMap.2 ⟨m, hm, by rw [hp, Option.map_some]⟩, rfl⟩
  refine congrArg Dict.ofList ?_
  rw [List.filterMap_filter]
  refine List.filterMap_congr fun m hm => ?_
  by_cases hname : m.1 = name
  · rw [hnone m hm hname, Option.map_none, ite_self]
  · simp [hname]

theorem read_withoutProperty {name : String} (h : (read j).hasProperty name = false) :
    read (withoutProperty name j) = read j := by
  unfold withoutProperty
  split
  · rename_i members hproperties
    have hobject : j.members?.isSome := by
      cases j with
      | object members => rfl
      | null | bool | number | text | array => cases hproperties
    rw [hasProperty, read, hproperties] at h
    -- The version hangs on the properties that are read, so that with them it is the same too.
    have hsame := readProperties_filter h
    simp only [read, Json.get?_withMember hobject, hproperties, String.reduceEq, reduceIte, hsame]
  · rfl

/-- Reading a description gives a normal form of it. What it says can be written and read again without a change; the
methods are all that are named, whatever stands under their names; and an entry that is no property could be
missing, be it the one for the version. -/
theorem read_isNormal (j : Json) :
    read (read j).toJson = read j ∧
    (∀ written, (read j).IsWritten written → read written = read j) ∧
    (∀ members, j.get? "methods" = some (.object members) →
      ∀ name, (read j).hasMethod name ↔ name ∈ members.map (·.1)) ∧
    (∀ elements, j.get? "methods" = some (.array elements) →
      ∀ name, (read j).hasMethod name ↔ .text name ∈ elements) ∧
    ∀ name, (read j).hasProperty name = false → read (withoutProperty name j) = read j :=
  ⟨(isSettled_read j).read_of_isWritten (isWritten_toJson _), fun _ => (isSettled_read j).read_of_isWritten,
    fun _ h _ => hasMethod_read_object h,
    fun _ h _ => hasMethod_read_array h, fun _ => read_withoutProperty⟩

theorem read_isNormal_loose :
    let j := Json.object [("methods", .object [("Start", .object [("params", .array [.text "level"])]),
      ("Stop", .integer 3)]), ("properties", .object [("level", .array [.null, .null, .null, .bool true]),
      ("serviceVersion", .text "1.0")])]
    let written := Json.object [("methods", .object [("Start", .object [("params", .array [.text "level"])]),
      ("Stop", .object [("params", .array [])])]), ("properties", .object [("level",
      .object (Entries.ofList ([("value", .bool true)] ++ [("unit", .null)])))])]
    (read j).IsWritten written ∧ read written = read j ∧ (read j).hasMethod "Stop" ∧
      (read j).hasProperty "serviceVersion" = false ∧ read (withoutProperty "serviceVersion" j) = read j := by
  intro j written
  have hmethods : (methodsToJson (read j).methods).members? = some [("Start", MethodSignature.toJson
      { params := ["level"] }), ("Stop", MethodSignature.toJson {})] := rfl
  have hproperties : (propertiesToJson (read j).properties).members? = some [("level", PropertyDescriptor.toJson
      { value := .bool true })] := rfl
  have hwritten : (read j).IsWritten written := by
    refine ⟨rfl, ⟨_, rfl, _, _, rfl, hmethods, ?_⟩, ⟨_, rfl, _, _, rfl, hproperties, ?_⟩⟩
    · have hstart := Json.alike_self MethodSignature.fields [("params", some (.array [.text "level"]))]
      have hstop := Json.alike_self MethodSignature.fields [("params", some (.array []))]
      exact .cons ⟨rfl, hstart⟩ (.cons ⟨rfl, hstop⟩ .nil)
    · exact .cons ⟨rfl, Json.alike_ofList (by decide) (by decide)⟩ .nil
  have hnone : (read j).hasProperty "serviceVersion" = false := rfl
  obtain ⟨-, hsame, hnamed, -, hwithout⟩ := read_isNormal j
  exact ⟨hwritten, hsame written hwritten, (hnamed _ rfl "Stop").2 (by decide), hnone, hwithout _ hnone⟩

end Schema
end ServiceLink
