import Mathlib.Data.List.Forall2
import ServiceLink.Json.Tree
import ServiceLink.Proofs.Json.Scanning

/-! The tree of a text that is put together from texts with trees: that of an array from those of its
elements, that of an object from those of its members. -/

namespace ServiceLink.Json

/-- The tree of characters. -/
def treeOf (cs : List Char) : Option Tree := (scan cs).bind Tree.ofTokens?

theorem tree?_eq (text : String) : tree? text = treeOf text.toList := rfl

def commas (texts : List (List Char)) : List Char := [','].intercalate texts

/-- Tokens with commas between them. -/
def commaTokens (tokens : List (List Token)) : List Token := [Token.comma].intercalate tokens

theorem commaTokens_cons (ts : List Token) (rest : List (List Token)) :
    ∃ more, commaTokens (ts :: rest) = ts ++ more := by
  cases rest with
  | nil => exact ⟨[], by simp [commaTokens]⟩
  | cons next rest => exact ⟨_, List.intercalate_cons_cons.trans (List.append_assoc _ _ _)⟩

namespace Tree.Builder

/-- The builder inside of other containers. -/
def within (outer : List Frame) (b : Builder) : Builder := { b with frames := b.frames ++ outer }

theorem begin?_within {frames : List Frame} {t : Token} {b : Builder} (h : begin? frames t = some b)
    (outer : List Frame) : begin? (frames ++ outer) t = some (b.within outer) := by
  cases t with
  | beginArray =>
    cases h
    rfl
  | beginObject =>
    cases h
    rfl
  | endObject => cases h
  | endArray => cases h
  | colon => cases h
  | comma => cases h
  | null =>
    cases h
    rfl
  | bool _ =>
    cases h
    rfl
  | text _ =>
    cases h
    rfl
  | number _ =>
    cases h
    rfl

theorem step_valueOrEnd (frames : List Frame) {t : Token} (h : t ≠ .endArray) :
    step ⟨frames, .valueOrEnd⟩ t = step ⟨.array [] :: frames, .value⟩ t := by
  cases t with
  | endArray => exact absurd rfl h
  | _ => rfl

theorem step_within {b b' : Builder} {t : Token} (h : b.step t = some b') (outer : List Frame) :
    (b.within outer).step t = some (b'.within outer) := by
  obtain ⟨frames, expect⟩ := b
  cases expect with
  | value => exact begin?_within h outer
  | valueOrEnd =>
    by_cases hend : t = .endArray
    · subst hend
      cases h
      rfl
    · rw [step_valueOrEnd frames hend] at h
      exact (step_valueOrEnd (frames ++ outer) hend).trans (begin?_within h outer)
  | keyOrEnd =>
    cases t with
    | endObject | text =>
      cases h
      rfl
    | _ => cases h
  | key members =>
    cases t with
    | text =>
      cases h
      rfl
    | _ => cases h
  | colon members key =>
    cases t with
    | colon =>
      cases h
      rfl
    | _ => cases h
  | after tree =>
    match frames with
    | [] => cases t <;> cases h
    | .array elements :: frames =>
      cases t with
      | comma | endArray =>
        cases h
        rfl
      | _ => cases h
    | .object members key :: frames =>
      cases t with
      | comma | endObject =>
        cases h
        rfl
      | _ => cases h

theorem foldlM_within {ts : List Token} {b b' : Builder} (h : ts.foldlM step b = some b')
    (outer : List Frame) : ts.foldlM step (b.within outer) = some (b'.within outer) := by
  induction ts generalizing b with
  | nil =>
    cases h
    rfl
  | cons t ts ih =>
    obtain ⟨next, hstep, hrest⟩ := Option.bind_eq_some_iff.1 h
    rw [List.foldlM_cons, step_within hstep outer]
    exact ih hrest

/-- The tokens of a tree are taken in wherever a value may stand. -/
theorem foldlM_value {ts : List Token} {tree : Tree} (h : ofTokens? ts = some tree) (frames : List Frame) :
    ts.foldlM step ⟨frames, .value⟩ = some ⟨frames, .after tree⟩ := by
  obtain ⟨⟨own, expect⟩, hrun, hfinish⟩ := Option.bind_eq_some_iff.1 h
  have hover : (⟨own, expect⟩ : Builder) = ⟨[], .after tree⟩ := by
    unfold finish at hfinish
    split at hfinish
    · rename_i hframes hexpect
      cases hfinish
      exact congr (congrArg _ hframes) hexpect
    · cases hfinish
  rw [hover] at hrun
  exact foldlM_within hrun frames

theorem foldlM_elements {α : Type} {tokens : α → List Token} {tree : α → Tree} {a : α} {rest : List α}
    (h : ∀ x ∈ a :: rest, ofTokens? (tokens x) = some (tree x)) (done : List Tree) (frames : List Frame) :
    (commaTokens ((a :: rest).map tokens) ++ [Token.endArray]).foldlM step ⟨.array done :: frames, .value⟩ =
      some ⟨frames, .after (.array (done.reverse ++ (a :: rest).map tree))⟩ := by
  induction rest generalizing a done with
  | nil =>
    rw [List.map_singleton, commaTokens, List.intercalate_singleton, List.foldlM_append,
      foldlM_value (h a List.mem_cons_self)]
    simp [step]
  | cons b rest ih =>
    have hcomma : step ⟨.array done :: frames, .after (tree a)⟩ .comma =
        some ⟨.array (tree a :: done) :: frames, .value⟩ := rfl
    have hrest := ih (fun x hx => h x (List.mem_cons_of_mem _ hx)) (tree a :: done)
    rw [commaTokens, List.map_cons, List.map_cons, List.intercalate_cons_cons, List.append_assoc,
      List.append_assoc, List.foldlM_append, foldlM_value (h a List.mem_cons_self), Option.bind_eq_bind,
      Option.bind_some, List.singleton_append, List.foldlM_cons, hcomma]
    simpa [commaTokens] using hrest

theorem foldlM_array {α : Type} {tokens : α → List Token} {tree : α → Tree} {a : α} {rest : List α}
    (h : ∀ x ∈ a :: rest, ofTokens? (tokens x) = some (tree x)) (frames : List Frame) :
    (commaTokens ((a :: rest).map tokens) ++ [Token.endArray]).foldlM step ⟨frames, .valueOrEnd⟩ =
      some ⟨frames, .after (.array ((a :: rest).map tree))⟩ := by
  obtain ⟨more, hmore⟩ := commaTokens_cons (tokens a) (rest.map tokens)
  have helements := foldlM_elements h [] frames
  rw [List.map_cons, hmore, List.append_assoc] at helements ⊢
  refine Eq.trans ?_ helements
  have hfirst := h a List.mem_cons_self
  cases htokens : tokens a with
  | nil =>
    rw [htokens] at hfirst
    cases hfirst
  | cons t ts =>
    have hne : t ≠ .endArray := by
      rintro rfl
      rw [htokens] at hfirst
      cases hfirst
    rw [List.cons_append, List.foldlM_cons, List.foldlM_cons, step_valueOrEnd frames hne]

def memberTokens (key : String) (tokens : List Token) : List Token := .text (some key) :: .colon :: tokens

theorem foldlM_member {ts : List Token} {tree : Tree} (h : ofTokens? ts = some tree) (key : String)
    (members : List (Option String × Tree)) (frames : List Frame) :
    (memberTokens key ts).foldlM step ⟨frames, .key members⟩ =
      some ⟨.object members (some key) :: frames, .after tree⟩ :=
  foldlM_value h _

theorem foldlM_members {α : Type} (key : α → String) {tokens : α → List Token} {tree : α → Tree} {a : α}
    {rest : List α} (h : ∀ x ∈ a :: rest, ofTokens? (tokens x) = some (tree x))
    (done : List (Option String × Tree)) (frames : List Frame) :
    (commaTokens ((a :: rest).map fun x => memberTokens (key x) (tokens x)) ++ [Token.endObject]).foldlM step
        ⟨frames, .key done⟩ =
      some ⟨frames, .after (.object (done.reverse ++ (a :: rest).map fun x => (some (key x), tree x)))⟩ := by
  induction rest generalizing a done with
  | nil =>
    rw [List.map_singleton, commaTokens, List.intercalate_singleton, List.foldlM_append,
      foldlM_member (h a List.mem_cons_self)]
    simp [step]
  | cons b rest ih =>
    have hcomma : step ⟨.object done (some (key a)) :: frames, .after (tree a)⟩ .comma =
        some ⟨frames, .key ((some (key a), tree a) :: done)⟩ := rfl
    have hrest := ih (fun x hx => h x (List.mem_cons_of_mem _ hx)) ((some (key a), tree a) :: done)
    rw [commaTokens, List.map_cons, List.map_cons, List.intercalate_cons_cons, List.append_assoc,
      List.append_assoc, List.foldlM_append, foldlM_member (h a List.mem_cons_self), Option.bind_eq_bind,
      Option.bind_some, List.singleton_append, List.foldlM_cons, hcomma]
    simpa [commaTokens] using hrest

end Tree.Builder

open ServiceLink.Json.Tree (ofTokens?)
open ServiceLink.Json.Tree.Builder (memberTokens)

/-! ### Arrays and objects -/

theorem scan_commas {α : Type} {text : α → List Char} {tokens : α → List Token} {a : α} {rest : List α}
    (h : ∀ x ∈ a :: rest, scan (text x) = some (tokens x)) {c : Char} {m : Token} (hm : Mark c m) :
    scan (commas ((a :: rest).map text) ++ [c]) = some (commaTokens ((a :: rest).map tokens) ++ [m]) := by
  induction rest generalizing a with
  | nil => simpa [commas, commaTokens] using scan_append_end (h a List.mem_cons_self) hm
  | cons b rest ih =>
    have hrest := ih fun x hx => h x (List.mem_cons_of_mem _ hx)
    have hthen := scan_append_mark (h a List.mem_cons_self) .comma (commas ((b :: rest).map text) ++ [c])
    rw [hrest] at hthen
    simpa [commas, commaTokens, List.intercalate_cons_cons] using hthen

theorem tokens_of_treeOf {cs : List Char} {tree : Tree} (h : treeOf cs = some tree) :
    scan cs = some ((scan cs).getD []) ∧ ofTokens? ((scan cs).getD []) = some tree := by
  obtain ⟨ts, hts, htree⟩ := Option.bind_eq_some_iff.1 h
  rw [hts]
  exact ⟨rfl, htree⟩

theorem treeOf_array {α : Type} {elements : List α} {text : α → List Char} {tree : α → Tree}
    (h : ∀ a ∈ elements, treeOf (text a) = some (tree a)) :
    treeOf ('[' :: (commas (elements.map text) ++ [']'])) = some (.array (elements.map tree)) := by
  cases elements with
  | nil => rfl
  | cons a rest =>
    have hscan := scan_commas (fun x hx => (tokens_of_treeOf (h x hx)).1) .endArray
    have hbuild := Tree.Builder.foldlM_array (fun x hx => (tokens_of_treeOf (h x hx)).2) []
    unfold treeOf
    rw [scan_mark .beginArray, hscan]
    exact congrArg (·.bind Tree.Builder.finish) hbuild

def memberText (key : String) (text : List Char) : List Char := (quote key).toList ++ ':' :: text

theorem scan_memberText {text : List Char} {ts : List Token} (h : scan text = some ts) (key : String) :
    scan (memberText key text) = some (memberTokens key ts) := by
  rw [memberText, scan_append_mark (scan_quote key) .colon, h]
  rfl

theorem treeOf_object {α : Type} {members : List α} {key : α → String} {text : α → List Char}
    {tree : α → Tree} (h : ∀ a ∈ members, treeOf (text a) = some (tree a)) :
    treeOf ('\x7b' :: (commas (members.map fun a => memberText (key a) (text a)) ++ ['\x7d'])) =
      some (.object (members.map fun a => (some (key a), tree a))) := by
  cases members with
  | nil => rfl
  | cons a rest =>
    have htokens : ∀ x ∈ a :: rest, scan (memberText (key x) (text x)) =
        some (memberTokens (key x) ((scan (text x)).getD [])) := fun x hx =>
      scan_memberText (tokens_of_treeOf (h x hx)).1 (key x)
    have hscan := scan_commas htokens .endObject
    have hbuild := Tree.Builder.foldlM_members key (fun x hx => (tokens_of_treeOf (h x hx)).2) [] []
    obtain ⟨more, hmore⟩ := commaTokens_cons (memberTokens (key a) ((scan (text a)).getD []))
      (rest.map fun x => memberTokens (key x) ((scan (text x)).getD []))
    rw [List.map_cons, hmore] at hbuild
    unfold treeOf
    rw [scan_mark .beginObject, hscan, List.map_cons, hmore]
    exact congrArg (·.bind Tree.Builder.finish) hbuild

end ServiceLink.Json
