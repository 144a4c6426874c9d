import Mathlib.Data.List.Forall2
import Mathlib.Data.List.Induction
import ServiceLink.Json.Record

/-! What the reader of a record looks for: the names of its fields. The order of the members makes no difference
to it, nor do members under other names. -/

namespace ServiceLink

namespace Entries

variable {α : Type} {key : String} {entries : List (String × α)}

theorem find?_eq_none (h : key ∉ entries.map (·.1)) : find? key entries = none := by
  induction entries with
  | nil => rfl
  | cons e rest ih =>
    obtain ⟨hne, hrest⟩ := not_or.1 (mt List.mem_cons.2 h)
    rw [find?, if_neg (Ne.symm hne), ih hrest]

theorem find?_filterMap {fields : List (String × Option α)} (h : (fields.map (·.1)).Nodup)
    {f : String × Option α} (hf : f ∈ fields) :
    find? f.1 (fields.filterMap fun f => f.2.map (f.1, ·)) = f.2 := by
  induction fields with
  | nil => cases hf
  | cons g rest ih =>
    obtain ⟨hg, hrest⟩ := List.nodup_cons.1 h
    have hother : g.1 ∉ (rest.filterMap fun f => f.2.map (f.1, ·)).map (·.1) := by
      simp only [List.mem_map, List.mem_filterMap, Option.map_eq_some_iff]
      rintro ⟨e, ⟨d, hd, a, -, rfl⟩, heq⟩
      exact hg (List.mem_map.2 ⟨d, hd, heq⟩)
    obtain ⟨name, value⟩ := g
    rcases List.mem_cons.1 hf with rfl | hmem
    · cases value with
      | none => exact find?_eq_none hother
      | some a => simp [find?]
    · have hne : name ≠ f.1 := fun heq => hg (List.mem_map.2 ⟨f, hmem, heq.symm⟩)
      cases value with
      | none => exact ih hrest hmem
      | some a => simpa [find?, hne] using ih hrest hmem

theorem find?_append (more : List (String × α)) :
    find? key (entries ++ more) = (find? key entries).or (find? key more) := by
  induction entries with
  | nil => rfl
  | cons e rest ih =>
    rw [List.cons_append, find?, find?, ih]
    split <;> rfl

theorem find?_ofList_append {more : List (String × α)} (h : key ∉ more.map (·.1)) :
    find? key (ofList (entries ++ more)) = find? key (ofList entries) := by
  -- Entries are put in from the front, so that the induction takes them off the end.
  induction more using List.reverseRec with
  | nil => rw [List.append_nil]
  | append_singleton more e ih =>
    rw [List.map_append, List.mem_append, not_or] at h
    have hne : e.1 ≠ key := fun heq => h.2 (List.mem_singleton.2 heq.symm)
    rw [← List.append_assoc, ofList, List.foldl_append, ← ofList, List.foldl_cons, List.foldl_nil, find?_insert,
      if_neg hne, ih h.1]

theorem find?_ofList (h : (entries.map (·.1)).Nodup) : find? key (ofList entries) = find? key entries := by
  induction entries using List.reverseRec with
  | nil => rfl
  | append_singleton entries e ih =>
    rw [List.map_append, List.nodup_append] at h
    rw [ofList, List.foldl_append, ← ofList, List.foldl_cons, List.foldl_nil, find?_insert, ih h.1, find?_append]
    by_cases hkey : e.1 = key
    · have hnone : key ∉ entries.map (·.1) := fun hmem =>
        h.2.2 key hmem e.1 (List.mem_singleton_self _) hkey.symm
      simp [find?, hkey, find?_eq_none hnone]
    · simp [find?, hkey]

theorem insert_eq_append (h : ∀ e ∈ entries, e.1 < key) (a : α) : insert key a entries = entries ++ [(key, a)] := by
  induction entries with
  | nil => rfl
  | cons e rest ih =>
    obtain ⟨he, hrest⟩ := List.forall_mem_cons.1 h
    have hne : key ≠ e.1 := fun heq => String.lt_irrefl key (by rwa [← heq] at he)
    rw [insert, if_neg (String.lt_asymm he), if_neg hne, ih hrest, List.cons_append]

theorem Ordered.ofList_eq (h : Ordered entries) : ofList entries = entries := by
  induction entries using List.reverseRec with
  | nil => rfl
  | append_singleton entries e ih =>
    obtain ⟨hentries, -, hlast⟩ := List.pairwise_append.1 h
    have hbelow : ∀ d ∈ entries, d.1 < e.1 := fun d hd => hlast d hd e (List.mem_singleton_self e)
    rw [ofList, List.foldl_append, ← ofList, ih hentries, List.foldl_cons, List.foldl_nil, insert_eq_append hbelow]

end Entries

theorem Dict.ofList_entries {α : Type} (d : Dict α) : Dict.ofList d.entries = d := Dict.ext d.ordered.ofList_eq

namespace Json

/-! ### Alike -/

/-- Equal as far as a shape looks at them. -/
def Alike : Shape → Json → Json → Prop
  | .whole, j, k => j = k
  | .record fields, j, k =>
    j.members?.isSome ∧ k.members?.isSome ∧
      ∀ name shape, (name, shape) ∈ fields → Option.Rel (Alike shape) (j.get? name) (k.get? name)
termination_by shape => shape
decreasing_by
  rename_i h _ _
  have hlt := List.sizeOf_lt_of_mem h
  simp only [Prod.mk.sizeOf_spec, Shape.record.sizeOf_spec] at hlt ⊢
  omega

def Shape.ofFields (fields : List String) : Shape := .record (fields.map (·, .whole))

/-- Arrays whose elements are alike, one by one. -/
def ArraysAlike (shape : Shape) (j k : Json) : Prop :=
  ∃ js ks, j.elements? = some js ∧ k.elements? = some ks ∧ List.Forall₂ (Alike shape) js ks

/-- Objects that are no records: their values are alike, key by key and in the same order. -/
def TablesAlike (shape : Shape) (j k : Json) : Prop :=
  ∃ ms ns, j.members? = some ms ∧ k.members? = some ns ∧
    List.Forall₂ (fun m n => m.1 = n.1 ∧ Alike shape m.2 n.2) ms ns

/-- Whether a value is read back from all that is like its writing. -/
def Recovers {α : Type} (shape : Shape) (write : α → Json) (read : Json → Option α) (a : α) : Prop :=
  ∀ j, Alike shape j (write a) → read j = some a

@[simp] theorem alike_whole {j k : Json} : Alike .whole j k ↔ j = k := by rw [Alike]

theorem rel_alike_whole {j? k? : Option Json} : Option.Rel (Alike .whole) j? k? ↔ j? = k? := by
  cases j? <;> cases k? <;> simp

theorem alike_record {fields : List (String × Shape)} {j k : Json} : Alike (.record fields) j k ↔
    j.members?.isSome ∧ k.members?.isSome ∧
      ∀ name shape, (name, shape) ∈ fields → Option.Rel (Alike shape) (j.get? name) (k.get? name) := by
  rw [Alike]

theorem alike_ofFields {fields : List String} {j k : Json} : Alike (.ofFields fields) j k ↔
    j.members?.isSome ∧ k.members?.isSome ∧ ∀ name ∈ fields, j.get? name = k.get? name := by
  simp only [Shape.ofFields, alike_record, List.mem_map, Prod.mk.injEq]
  refine and_congr_right fun _ => and_congr_right fun _ => ⟨fun h name hname => ?_, ?_⟩
  · exact rel_alike_whole.1 (h name .whole ⟨name, hname, rfl, rfl⟩)
  · rintro h name shape ⟨_, hname, rfl, rfl⟩
    exact rel_alike_whole.2 (h _ hname)

theorem alike_self (names : List String) (fields : List (String × Option Json)) :
    Alike (.ofFields names) (record fields) (record fields) := alike_ofFields.2 ⟨rfl, rfl, fun _ _ => rfl⟩

/-- A record is like itself with members under other names, all in key order. -/
theorem alike_ofList {names : List String} {members more : List (String × Json)}
    (hnodup : (members.map (·.1)).Nodup) (hmore : ∀ m ∈ more, m.1 ∉ names) :
    Alike (.ofFields names) (.object (Entries.ofList (members ++ more))) (.object members) := by
  refine alike_ofFields.2 ⟨rfl, rfl, fun name hname => ?_⟩
  have hother : name ∉ more.map (·.1) := by
    intro hmem
    obtain ⟨m, hm, rfl⟩ := List.mem_map.1 hmem
    exact hmore m hm hname
  exact (Entries.find?_ofList_append hother).trans (Entries.find?_ofList hnodup)

/-! ### Members put in place -/

/-- An object with this value under a key, whether it had one there or not. -/
def withMember (j : Json) (key : String) (value : Json) : Json :=
  match j with
  | .object members => .object (Entries.insert key value members)
  | j => j

theorem members?_withMember {j value : Json} {key : String} :
    (j.withMember key value).members?.isSome = j.members?.isSome := by
  cases j <;> rfl

theorem get?_withMember {j value : Json} {key name : String} (h : j.members?.isSome) :
    (j.withMember key value).get? name = if key = name then some value else j.get? name := by
  cases j with
  | object members => exact Entries.find?_insert
  | null | bool | number | text | array => cases h

/-! ### Fields -/

/-- What an object offers under a name. -/
def Offer.ofMember : Option Json → Offer
  | some j => .value j
  | none => .absent

theorem offers_eq {j : Json} (h : j.members?.isSome) (fields : List String) :
    j.offers fields = some (fields.map fun f => .ofMember (j.get? f)) := by
  cases j with
  | object members => rfl
  | null | bool | number | text | array => cases h

theorem get?_record {fields : List (String × Option Json)} (h : (fields.map (·.1)).Nodup)
    {f : String × Option Json} (hf : f ∈ fields) : (record fields).get? f.1 = f.2 := Entries.find?_filterMap h hf

theorem Alike.offers_record {names : List String} {fields : List (String × Option Json)} {j k : Json}
    (h : Alike (.ofFields names) j k) (hk : k = record fields) (hnames : fields.map (·.1) = names)
    (hnodup : names.Nodup) : j.offers names = some (fields.map fun f => .ofMember f.2) := by
  subst hk hnames
  obtain ⟨hobject, -, hget⟩ := alike_ofFields.1 h
  rw [offers_eq hobject, List.map_map]
  refine congrArg some (List.map_congr_left fun f hf => ?_)
  rw [Function.comp_apply, hget f.1 (List.mem_map_of_mem hf), get?_record hnodup hf]

namespace Offer

variable {α : Type} {read : Json → Option α}

@[simp] theorem required_ofMember (j? : Option Json) : (ofMember j?).required read = j?.bind read := by
  cases j? <;> rfl

@[simp] theorem orDefault_ofMember (j : Json) (default : α) :
    (ofMember (some j)).orDefault default read = read j := rfl

@[simp] theorem optionalLast_ofMember (j? : Option Json) :
    (ofMember j?).optionalLast read = (ofMember j?).optional read := by
  cases j? <;> rfl

theorem optional_ofMember (read : Json → Option α) (write : α → Json) {a? : Option α}
    (h : ∀ a, a? = some a → write a ≠ .null ∧ read (write a) = some a) :
    (ofMember (a?.map write)).optional read = some a? := by
  cases a? with
  | none => rfl
  | some a =>
    obtain ⟨hnull, hread⟩ := h a rfl
    have hvalue : ∀ j, j ≠ .null → (Offer.value j).optional read = (read j).map some := by
      intro j hj
      cases j <;> first | rfl | exact absurd rfl hj
    rw [Option.map_some, ofMember, hvalue _ hnull, hread, Option.map_some]

theorem optional_ofMember_some {j? : Option Json} (h : j? ≠ some .null) :
    (ofMember j?).optional some = some j? := by
  have hread := optional_ofMember some (fun j => j) fun j hj => ⟨fun hnull => h (hnull ▸ hj), rfl⟩
  rwa [Option.map_id'] at hread

end Offer

/-! ### Lists and tables of records -/

theorem filterMap_eq_of_forall₂ {α β : Type} {f : β → Option α} {as : List α} {bs : List β}
    (h : List.Forall₂ (fun b a => f b = some a) bs as) : bs.filterMap f = as := by
  induction h with
  | nil => rfl
  | cons hfirst _ ih => rw [List.filterMap_cons_some hfirst, ih]

section

variable {α : Type} {shape : Shape} {write : α → Json} {j : Json}

theorem ArraysAlike.filterMap_eq {read : Json → Option α} {as : List α}
    (h : ArraysAlike shape j (.array (as.map write))) (hread : ∀ a, Recovers shape write read a) :
    (j.elements?.getD []).filterMap read = as := by
  obtain ⟨js, _, hj, hwritten, halike⟩ := h
  cases hwritten
  rw [List.forall₂_map_right_iff] at halike
  rw [hj, Option.getD_some]
  exact filterMap_eq_of_forall₂ (halike.imp fun k a hk => hread a k hk)

theorem TablesAlike.ofList_eq {d : Dict α} (h : TablesAlike shape j (.object (d.map write).entries))
    (read : String → Json → Option α) (hread : ∀ key a, Recovers shape write (read key) a) :
    Dict.ofList ((j.members?.getD []).filterMap fun m => (read m.1 m.2).map (m.1, ·)) = d := by
  obtain ⟨ms, _, hj, hwritten, halike⟩ := h
  cases hwritten
  rw [Dict.map, List.forall₂_map_right_iff] at halike
  have hentry : ∀ (m : String × Json) (e : String × α), m.1 = e.1 ∧ Alike shape m.2 (write e.2) →
      (read m.1 m.2).map (m.1, ·) = some e := by
    rintro m e ⟨hkey, hvalue⟩
    rw [hkey, hread e.1 e.2 m.2 hvalue, Option.map_some]
  rw [hj, Option.getD_some, filterMap_eq_of_forall₂ (halike.imp hentry), Dict.ofList_entries]

theorem tablesAlike_self (h : ∀ a, Alike shape (write a) (write a)) (d : Dict α) :
    TablesAlike shape (.object (d.map write).entries) (.object (d.map write).entries) := by
  refine ⟨_, _, rfl, rfl, List.forall₂_same.2 fun m hm => ?_⟩
  obtain ⟨e, -, rfl⟩ := List.mem_map.1 hm
  exact ⟨rfl, h e.2⟩

end
end Json
end ServiceLink
