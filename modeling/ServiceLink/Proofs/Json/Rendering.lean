import Mathlib.Data.List.Induction
import ServiceLink.Proofs.Json.Building
import ServiceLink.Proofs.Json.Doubles
import ServiceLink.Proofs.Json.Records

/-! What is read back from the text of a value. The text has a tree of the same form as the value, and the
reader finds in it what it finds in the leaves, as long as it has levels enough. -/

namespace ServiceLink

theorem Entries.find?_ofList_ne_none {α : Type} {entries : List (String × α)} {key : String}
    (h : key ∈ entries.map (·.1)) : find? key (ofList entries) ≠ none := by
  induction entries using List.reverseRecOn with
  | nil => cases h
  | append_singleton entries e ih =>
    rw [ofList, List.foldl_append, List.foldl_cons, List.foldl_nil, find?_insert]
    split
    · exact Option.some_ne_none _
    · rename_i hne
      refine ih ?_
      rw [List.map_append, List.mem_append] at h
      exact h.resolve_right fun hlast => hne (List.mem_singleton.1 hlast).symm

namespace Json

/-! ### The form of a text -/

def arrayText (texts : List String) : String := "[" ++ ",".intercalate texts ++ "]"

def objectText (members : List (String × String)) : String :=
  "\x7b" ++ ",".intercalate (members.map fun m => quote m.1 ++ ":" ++ m.2) ++ "\x7d"

theorem renderElements_eq (elements : List Json) :
    renderElements elements = ",".intercalate (elements.map render) := by
  match elements with
  | [] => rfl
  | [j] => simp [renderElements]
  | j :: k :: rest =>
    rw [renderElements, renderElements_eq (k :: rest)]
    · simp [String.intercalate_cons_cons]
    · simp

theorem renderMembers_eq (members : List (String × Json)) :
    renderMembers members = ",".intercalate (members.map fun m => quote m.1 ++ ":" ++ m.2.render) := by
  match members with
  | [] => rfl
  | [(key, j)] => simp [renderMembers]
  | (key, j) :: m :: rest =>
    rw [renderMembers, renderMembers_eq (m :: rest)]
    · simp [String.intercalate_cons_cons]
    · simp

theorem render_array (elements : List Json) : (array elements).render = arrayText (elements.map render) := by
  rw [render, renderElements_eq, arrayText]

theorem render_object (members : List (String × Json)) :
    (object members).render = objectText (members.map fun m => (m.1, m.2.render)) := by
  rw [render, renderMembers_eq, objectText, List.map_map]
  rfl

section

variable {α : Type} {parts : List α} {text : α → String} {tree : α → Tree}

theorem tree?_arrayText (h : ∀ a ∈ parts, tree? (text a) = some (tree a)) :
    tree? (arrayText (parts.map text)) = some (.array (parts.map tree)) := by
  have htext : (arrayText (parts.map text)).toList =
      '[' :: (commas (parts.map fun a => (text a).toList) ++ [']']) := by
    simp [arrayText, commas, Function.comp_def]
  rw [tree?_eq, htext]
  exact treeOf_array h

theorem tree?_objectText {key : α → String} (h : ∀ a ∈ parts, tree? (text a) = some (tree a)) :
    tree? (objectText (parts.map fun a => (key a, text a))) =
      some (.object (parts.map fun a => (some (key a), tree a))) := by
  have htext : (objectText (parts.map fun a => (key a, text a))).toList =
      '\x7b' :: (commas (parts.map fun a => memberText (key a) (text a).toList) ++ ['\x7d']) := by
    simp [objectText, commas, memberText, Function.comp_def]
  rw [tree?_eq, htext]
  exact treeOf_object h

end

/-! ### The tree of a value -/

mutual

/-- The tree that the text of a value has. A number is what is read back from its literal. -/
def Tree.ofJson : Json → Tree
  | .null => .leaf (some .null)
  | .bool b => .leaf (some (.bool b))
  | .number n => .leaf ((numeralOf n.render.toList).value?.map .number)
  | .text s => .leaf (some (.text s))
  | .array elements => .array (ofElements elements)
  | .object members => .object (ofMembers members)

def Tree.ofElements : List Json → List Tree
  | [] => []
  | j :: rest => Tree.ofJson j :: ofElements rest

def Tree.ofMembers : List (String × Json) → List (Option String × Tree)
  | [] => []
  | (key, j) :: rest => (some key, Tree.ofJson j) :: ofMembers rest

end

theorem Tree.ofElements_eq (elements : List Json) : ofElements elements = elements.map ofJson := by
  induction elements with
  | nil => rfl
  | cons j rest ih => rw [ofElements, ih, List.map_cons]

theorem Tree.ofMembers_eq (members : List (String × Json)) :
    ofMembers members = members.map fun m => (some m.1, ofJson m.2) := by
  induction members with
  | nil => rfl
  | cons m rest ih => rw [ofMembers, ih, List.map_cons]

mutual

theorem tree?_render : (j : Json) → tree? j.render = some (.ofJson j)
  | .null => rfl
  | .bool true => rfl
  | .bool false => rfl
  | .number n => by
    rw [tree?_eq, treeOf, render, n.scan_render]
    rfl
  | .text s => by
    rw [tree?_eq, treeOf, render, scan_quote]
    rfl
  | .array elements => by
    rw [render_array, Tree.ofJson, Tree.ofElements_eq]
    exact tree?_arrayText (tree?_renderElements elements)
  | .object members => by
    rw [render_object, Tree.ofJson, Tree.ofMembers_eq]
    exact tree?_objectText (tree?_renderMembers members)

theorem tree?_renderElements : (elements : List Json) → ∀ j ∈ elements, tree? j.render = some (.ofJson j)
  | [] => nofun
  | j :: rest => List.forall_mem_cons.2 ⟨tree?_render j, tree?_renderElements rest⟩

theorem tree?_renderMembers :
    (members : List (String × Json)) → ∀ m ∈ members, tree? m.2.render = some (.ofJson m.2)
  | [] => nofun
  | (_, j) :: rest => List.forall_mem_cons.2 ⟨tree?_render j, tree?_renderMembers rest⟩

end

/-! ### Levels -/

mutual

/-- How deep containers are nested. -/
def depth : Json → Nat
  | .array elements => elementsDepth elements + 1
  | .object members => membersDepth members + 1
  | _ => 0

def elementsDepth : List Json → Nat
  | [] => 0
  | j :: rest => max (depth j) (elementsDepth rest)

def membersDepth : List (String × Json) → Nat
  | [] => 0
  | (_, j) :: rest => max (depth j) (membersDepth rest)

end

namespace Tree

mutual

def depth : Tree → Nat
  | .leaf _ => 0
  | .array elements => elementsDepth elements + 1
  | .object members => membersDepth members + 1

def elementsDepth : List Tree → Nat
  | [] => 0
  | t :: rest => max (depth t) (elementsDepth rest)

def membersDepth : List (Option String × Tree) → Nat
  | [] => 0
  | (_, t) :: rest => max (depth t) (membersDepth rest)

end

mutual

theorem depth_ofJson : (j : Json) → (ofJson j).depth = j.depth
  | .null => rfl
  | .bool _ => rfl
  | .number _ => rfl
  | .text _ => rfl
  | .array elements => congrArg (· + 1) (elementsDepth_ofElements elements)
  | .object members => congrArg (· + 1) (membersDepth_ofMembers members)

theorem elementsDepth_ofElements : (elements : List Json) →
    elementsDepth (ofElements elements) = Json.elementsDepth elements
  | [] => rfl
  | j :: rest => congr (congrArg max (depth_ofJson j)) (elementsDepth_ofElements rest)

theorem membersDepth_ofMembers : (members : List (String × Json)) →
    membersDepth (ofMembers members) = Json.membersDepth members
  | [] => rfl
  | (_, j) :: rest => congr (congrArg max (depth_ofJson j)) (membersDepth_ofMembers rest)

end

mutual

/-- A tree that is read with some levels is read with any that suffice, be it as many or one for each
container on the way down. -/
theorem value?_of_le {levels enough : Nat} : (t : Tree) → {v : Json} → value? levels t = some v →
    min levels t.depth ≤ enough → value? enough t = some v
  | .leaf _, _, h, _ => h
  | .array elements, v, h, hle => by
    cases levels with
    | zero => cases h
    | succ levels =>
      rw [depth] at hle
      obtain ⟨vs, hvs, rfl⟩ := Option.map_eq_some_iff.1 h
      obtain ⟨enough, rfl⟩ := Nat.exists_eq_add_one_of_ne_zero (n := enough) (by omega)
      have hle : min levels (elementsDepth elements) ≤ enough := by omega
      have hthen := values?_of_le elements hvs hle
      exact Option.map_eq_some_iff.2 ⟨vs, hthen, rfl⟩
  | .object members, v, h, hle => by
    cases levels with
    | zero => cases h
    | succ levels =>
      rw [depth] at hle
      obtain ⟨vs, hvs, rfl⟩ := Option.map_eq_some_iff.1 h
      obtain ⟨enough, rfl⟩ := Nat.exists_eq_add_one_of_ne_zero (n := enough) (by omega)
      have hle : min levels (membersDepth members) ≤ enough := by omega
      have hthen := memberValues?_of_le members hvs hle
      exact Option.map_eq_some_iff.2 ⟨vs, hthen, rfl⟩

theorem values?_of_le {levels enough : Nat} : (ts : List Tree) → {vs : List Json} →
    values? levels ts = some vs → min levels (elementsDepth ts) ≤ enough → values? enough ts = some vs
  | [], _, h, _ => h
  | t :: rest, vs, h, hle => by
    rw [elementsDepth] at hle
    obtain ⟨v, hv, h⟩ := Option.bind_eq_some_iff.1 h
    obtain ⟨vs, hvs, h⟩ := Option.bind_eq_some_iff.1 h
    cases h
    rw [values?, value?_of_le t hv (by omega), values?_of_le rest hvs (by omega)]
    rfl

theorem memberValues?_of_le {levels enough : Nat} : (ms : List (Option String × Tree)) →
    {vs : List (String × Json)} → memberValues? levels ms = some vs →
    min levels (membersDepth ms) ≤ enough → memberValues? enough ms = some vs
  | [], _, h, _ => h
  | (key, t) :: rest, vs, h, hle => by
    rw [membersDepth] at hle
    obtain ⟨k, hk, h⟩ := Option.bind_eq_some_iff.1 h
    obtain ⟨v, hv, h⟩ := Option.bind_eq_some_iff.1 h
    obtain ⟨vs, hvs, h⟩ := Option.bind_eq_some_iff.1 h
    cases h
    rw [memberValues?, hk, value?_of_le t hv (by omega), memberValues?_of_le rest hvs (by omega)]
    rfl

end

theorem values?_map {α : Type} {levels : Nat} {parts : List α} {tree : α → Tree} {value : α → Json}
    (h : ∀ a ∈ parts, value? levels (tree a) = some (value a)) :
    values? levels (parts.map tree) = some (parts.map value) := by
  induction parts with
  | nil => rfl
  | cons a rest ih =>
    rw [List.map_cons, values?, h a List.mem_cons_self, ih fun x hx => h x (List.mem_cons_of_mem _ hx)]
    rfl

theorem memberValues?_map {α : Type} {levels : Nat} {parts : List α} {key : α → String} {tree : α → Tree}
    {value : α → Json} (h : ∀ a ∈ parts, value? levels (tree a) = some (value a)) :
    memberValues? levels (parts.map fun a => (some (key a), tree a)) =
      some (parts.map fun a => (key a, value a)) := by
  induction parts with
  | nil => rfl
  | cons a rest ih =>
    rw [List.map_cons, memberValues?, h a List.mem_cons_self, ih fun x hx => h x (List.mem_cons_of_mem _ hx)]
    rfl

theorem exists_of_values? {levels : Nat} {ts : List Tree} {vs : List Json} (h : values? levels ts = some vs)
    {v : Json} (hv : v ∈ vs) : ∃ t ∈ ts, value? levels t = some v := by
  induction ts generalizing vs with
  | nil =>
    cases h
    cases hv
  | cons t rest ih =>
    obtain ⟨first, hfirst, h⟩ := Option.bind_eq_some_iff.1 h
    obtain ⟨others, hothers, h⟩ := Option.bind_eq_some_iff.1 h
    cases h
    rcases List.mem_cons.1 hv with rfl | hv
    · exact ⟨t, List.mem_cons_self, hfirst⟩
    · obtain ⟨u, hu, hvalue⟩ := ih hothers hv
      exact ⟨u, List.mem_cons_of_mem _ hu, hvalue⟩

theorem isSome_of_values? {levels : Nat} {ts : List Tree} (h : (values? levels ts).isSome) {t : Tree}
    (ht : t ∈ ts) : (value? levels t).isSome := by
  induction ts with
  | nil => cases ht
  | cons first rest ih =>
    obtain ⟨vs, hvs⟩ := Option.isSome_iff_exists.1 h
    obtain ⟨v, hv, hothers⟩ := Option.bind_eq_some_iff.1 hvs
    obtain ⟨others, hothers, -⟩ := Option.bind_eq_some_iff.1 hothers
    rcases List.mem_cons.1 ht with rfl | ht
    · exact Option.isSome_of_eq_some hv
    · exact ih (Option.isSome_of_eq_some hothers) ht

theorem isSome_of_memberValues? {levels : Nat} {ms : List (Option String × Tree)}
    (h : (memberValues? levels ms).isSome) {m : Option String × Tree} (hm : m ∈ ms) :
    (value? levels m.2).isSome := by
  induction ms with
  | nil => cases hm
  | cons first rest ih =>
    obtain ⟨vs, hvs⟩ := Option.isSome_iff_exists.1 h
    obtain ⟨key, hkey, hvs⟩ := Option.bind_eq_some_iff.1 hvs
    obtain ⟨v, hv, hothers⟩ := Option.bind_eq_some_iff.1 hvs
    obtain ⟨others, hothers, -⟩ := Option.bind_eq_some_iff.1 hothers
    rcases List.mem_cons.1 hm with rfl | hm
    · exact Option.isSome_of_eq_some hv
    · exact ih (Option.isSome_of_eq_some hothers) hm

theorem keys_of_memberValues? {levels : Nat} {ms : List (Option String × Tree)} {vs : List (String × Json)}
    (h : memberValues? levels ms = some vs) : vs.map (some ·.1) = ms.map (·.1) := by
  induction ms generalizing vs with
  | nil =>
    cases h
    rfl
  | cons m rest ih =>
    obtain ⟨k, hk, h⟩ := Option.bind_eq_some_iff.1 h
    obtain ⟨v, hv, h⟩ := Option.bind_eq_some_iff.1 h
    obtain ⟨others, hothers, h⟩ := Option.bind_eq_some_iff.1 h
    cases h
    rw [List.map_cons, List.map_cons, ih hothers, hk]

end Tree

theorem exists_tree {text : String} {j : Json} (h : parse? text = some j) :
    ∃ t, tree? text = some t ∧ Tree.value? maxLevels t = some j :=
  Option.bind_eq_some_iff.1 h

theorem parse?_arrayText {α : Type} {parts : List α} {text : α → String} {value : α → Json}
    (h : ∀ a ∈ parts, parse? (text a) = some (value a)) (hread : (parse? (arrayText (parts.map text))).isSome) :
    parse? (arrayText (parts.map text)) = some (.array (parts.map value)) := by
  let tree (a : α) : Tree := (tree? (text a)).getD (.leaf none)
  have htree : ∀ a ∈ parts, tree? (text a) = some (tree a) ∧
      Tree.value? maxLevels (tree a) = some (value a) := by
    intro a ha
    obtain ⟨t, ht, hvalue⟩ := exists_tree (h a ha)
    have heq : tree a = t := by simp [tree, ht]
    rw [heq]
    exact ⟨ht, hvalue⟩
  have harray := tree?_arrayText fun a ha => (htree a ha).1
  obtain ⟨v, hv⟩ := Option.isSome_iff_exists.1 hread
  have hvalue : Tree.value? maxLevels (.array (parts.map tree)) = some v := by
    rwa [parse?, harray] at hv
  obtain ⟨vs, hvs, rfl⟩ := Option.map_eq_some_iff.1 hvalue
  have hmore : Tree.values? maxLevels (parts.map tree) = some vs :=
    Tree.values?_of_le _ hvs (Nat.le_trans (Nat.min_le_left _ _) (by decide))
  have hall := Tree.values?_map fun a ha => (htree a ha).2
  rw [hv, Option.some.inj (hmore.symm.trans hall)]

/-! ### Reading back -/

/-- What a reader with so many levels finds in the text of a value. -/
def Reads (levels : Nat) (j value : Json) : Prop := Tree.value? levels (.ofJson j) = some value

namespace Reads

variable {levels : Nat}

theorem parse?_eq {j value : Json} (h : Reads maxLevels j value) : parse? j.render = some value := by
  rw [parse?, tree?_render]
  exact h

theorem of_parse? {j value : Json} (h : parse? j.render = some value) : Reads maxLevels j value := by
  rwa [parse?, tree?_render] at h

theorem of_depth {j value : Json} (h : Reads levels j value) {enough : Nat} (hdepth : j.depth ≤ enough) :
    Reads enough j value :=
  Tree.value?_of_le _ h (Nat.le_trans (Nat.min_le_right _ _) (Tree.depth_ofJson j ▸ hdepth))

theorem of_le {j value : Json} (h : Reads levels j value) {enough : Nat} (hle : levels ≤ enough) :
    Reads enough j value :=
  Tree.value?_of_le _ h (Nat.le_trans (Nat.min_le_left _ _) hle)

theorem null : Reads levels .null .null := rfl

theorem text (s : String) : Reads levels (.text s) (.text s) := rfl

theorem integer {z : Int} (h : InRange z) : Reads levels (.integer z) (.integer z) := by
  rw [Reads, Json.integer, Tree.ofJson, value?_integer h]
  rfl

theorem array {α : Type} {parts : List α} {j value : α → Json} (h : ∀ a ∈ parts, Reads levels (j a) (value a)) :
    Reads (levels + 1) (.array (parts.map j)) (.array (parts.map value)) := by
  have hvalues := Tree.values?_map h
  rw [Reads, Tree.ofJson, Tree.ofElements_eq, List.map_map, Tree.value?]
  exact congrArg (Option.map Json.array) hvalues

theorem members {α : Type} {parts : List α} (key : α → String) {j value : α → Json}
    (h : ∀ a ∈ parts, Reads levels (j a) (value a)) :
    Reads (levels + 1) (.object (parts.map fun a => (key a, j a)))
      (.object (Entries.ofList (parts.map fun a => (key a, value a)))) := by
  rw [Reads, Tree.ofJson, Tree.ofMembers_eq, Tree.value?, List.map_map]
  exact congrArg (Option.map (Json.object ∘ Entries.ofList)) (Tree.memberValues?_map h)

theorem object {members : List (String × Json)} (h : ∀ m ∈ members, Reads levels m.2 m.2) :
    Reads (levels + 1) (.object members) (.object (Entries.ofList members)) := by
  simpa using Reads.members (·.1) h

theorem ordered {members : List (String × Json)} (h : ∀ m ∈ members, Reads levels m.2 m.2)
    (hordered : Entries.Ordered members) : Reads (levels + 1) (.object members) (.object members) := by
  have hreads := Reads.object h
  rwa [hordered.ofList_eq] at hreads

theorem record {members : List (String × Option Json)}
    (h : ∀ m ∈ members, ∀ j, m.2 = some j → Reads levels j j) :
    Reads (levels + 1) (.record members)
      (.object (Entries.ofList (members.filterMap fun m => m.2.map (m.1, ·)))) := by
  refine .object fun m hm => ?_
  obtain ⟨part, hpart, hsome⟩ := List.mem_filterMap.1 hm
  obtain ⟨j, hj, rfl⟩ := Option.map_eq_some_iff.1 hsome
  exact h part hpart j hj

theorem elements {js : List Json} {value : Json} (h : Reads levels (.array js) value) :
    ∃ vs, value = .array vs ∧ ∀ v ∈ vs, ∃ j ∈ js, ∃ fewer, Reads fewer j v := by
  rw [Reads, Tree.ofJson, Tree.ofElements_eq] at h
  cases levels with
  | zero => cases h
  | succ levels =>
    obtain ⟨vs, hvs, rfl⟩ := Option.map_eq_some_iff.1 h
    refine ⟨vs, rfl, fun v hv => ?_⟩
    obtain ⟨t, ht, hvalue⟩ := Tree.exists_of_values? hvs hv
    obtain ⟨j, hj, rfl⟩ := List.mem_map.1 ht
    exact ⟨j, hj, levels, hvalue⟩

theorem member {members : List (String × Json)} {value : Json} (h : Reads levels (.object members) value)
    {key : String} (hkey : key ∈ members.map (·.1)) : value.get? key ≠ none := by
  rw [Reads, Tree.ofJson, Tree.ofMembers_eq] at h
  cases levels with
  | zero => cases h
  | succ levels =>
    obtain ⟨vs, hvs, rfl⟩ := Option.map_eq_some_iff.1 h
    have hkeys : vs.map (some ·.1) = members.map (some ·.1) :=
      (Tree.keys_of_memberValues? hvs).trans List.map_map
    obtain ⟨m, hm, rfl⟩ := List.mem_map.1 hkey
    obtain ⟨v, hv, heq⟩ := List.mem_map.1 (hkeys ▸ List.mem_map_of_mem hm)
    exact Entries.find?_ofList_ne_none (Option.some.inj heq ▸ List.mem_map_of_mem hv)

end Reads

/-- Whether a value is read back from its text with some levels of containers. -/
def Returns (levels : Nat) (j : Json) : Prop := ∃ value, Reads levels j value

namespace Returns

variable {levels : Nat}

theorem of_parse? {j : Json} (h : (parse? j.render).isSome) : Returns maxLevels j := by
  obtain ⟨value, hvalue⟩ := Option.isSome_iff_exists.1 h
  exact ⟨value, .of_parse? hvalue⟩

theorem element {js : List Json} (h : Returns (levels + 1) (.array js)) {j : Json} (hj : j ∈ js) :
    Returns levels j := by
  obtain ⟨value, hvalue⟩ := h
  rw [Reads, Tree.ofJson, Tree.ofElements_eq, Tree.value?] at hvalue
  obtain ⟨vs, hvs, -⟩ := Option.map_eq_some_iff.1 hvalue
  exact Option.isSome_iff_exists.1 (Tree.isSome_of_values? (Option.isSome_of_eq_some hvs) (List.mem_map_of_mem hj))

theorem member {members : List (String × Json)} (h : Returns (levels + 1) (.object members))
    {m : String × Json} (hm : m ∈ members) : Returns levels m.2 := by
  obtain ⟨value, hvalue⟩ := h
  rw [Reads, Tree.ofJson, Tree.ofMembers_eq, Tree.value?] at hvalue
  obtain ⟨vs, hvs, -⟩ := Option.map_eq_some_iff.1 hvalue
  exact Option.isSome_iff_exists.1
    (Tree.isSome_of_memberValues? (Option.isSome_of_eq_some hvs) (List.mem_map_of_mem hm))

end Returns

end Json
end ServiceLink
