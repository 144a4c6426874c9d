import Mathlib.Data.List.TakeWhile
import ServiceLink.Proofs.Url.Hosting

/-! What reading a path leaves. The parts before it stay, its segments hold no marks, and a query or a fragment
comes of a mark only. -/

namespace ServiceLink.Url

open Text

variable {u : Url} {start : List String} {cs : List Char}

/-! ### Query and fragment -/

@[simp] theorem withTail_scheme : (withTail u cs).scheme = u.scheme := by unfold withTail; split; rfl

@[simp] theorem withTail_username : (withTail u cs).username = u.username := by unfold withTail; split; rfl

@[simp] theorem withTail_password : (withTail u cs).password = u.password := by unfold withTail; split; rfl

@[simp] theorem withTail_host : (withTail u cs).host = u.host := by unfold withTail; split; rfl

@[simp] theorem withTail_port : (withTail u cs).port = u.port := by unfold withTail; split; rfl

@[simp] theorem withTail_path : (withTail u cs).path = u.path := by unfold withTail; split; rfl

/-- A URL without query and fragment. -/
def IsWhole (u : Url) : Prop := u.query = none ∧ u.fragment = none

theorem withTail_nil_isWhole : (withTail u []).IsWhole := ⟨rfl, rfl⟩

theorem withTail_cons_not_isWhole {c : Char} (h : isPathEnd c) : ¬ (withTail u (c :: cs)).IsWhole := by
  rintro ⟨hquery, hfragment⟩
  rcases isPathEnd_iff.1 h with rfl | rfl
  · exact absurd hquery (by simp [withTail])
  · exact absurd hfragment (by simp [withTail])

/-! ### Segments -/

theorem walk_unmarked {file : Bool} {done : List String} (h : ∀ s ∈ done, Unmarked s.toList)
    (raws : List (List Char)) : ∀ s ∈ walk file done raws, Unmarked s.toList := by
  induction raws generalizing done with
  | nil => exact h
  | cons raw raws ih =>
    have hbehind : ∀ s ∈ if raws = [] then [""] else [], Unmarked s.toList := by
      split
      · simp
      · exact fun _ hs => absurd hs List.not_mem_nil
    have hback : ∀ s ∈ stepBack done, Unmarked s.toList := by
      unfold stepBack
      split
      · exact fun _ hs => absurd hs List.not_mem_nil
      · split
        · exact h
        · exact (List.forall_mem_cons.1 h).2
    rw [walk]
    generalize (if file ∧ done = [] then asDrive raw else raw) = written
    split
    · exact ih (List.forall_mem_append.2 ⟨hbehind, hback⟩)
    · split
      · exact ih (List.forall_mem_append.2 ⟨hbehind, h⟩)
      · refine ih (List.forall_mem_cons.2 ⟨?_, h⟩)
        rw [String.toList_ofList]
        exact percentEncode_unmarked (fun _ => pathSet_of_isPathEnd) written

theorem segmentsFrom_unmarked (scheme : String) (h : ∀ s ∈ start, Unmarked s.toList) (cs : List Char) :
    ∀ s ∈ segmentsFrom scheme start cs, Unmarked s.toList := by
  intro s hs
  refine walk_unmarked (fun s hs => h s (List.mem_reverse.1 hs)) _ s (List.mem_reverse.1 hs)

/-- A segment that stands for itself. -/
structure IsPlain (name : String) : Prop where
  own : percentEncode pathSet name.toList = name.toList
  unmarked : Unmarked name.toList
  whole : name.toList.any isSlash = false
  named : ¬ isDoubleDot name ∧ ¬ isSingleDot name

theorem walk_append_plain {name : String} (h : IsPlain name) (done : List String) (raws : List (List Char)) :
    ∃ walked, walk false done (raws ++ [name.toList]) = name :: walked := by
  induction raws generalizing done with
  | nil =>
    refine ⟨done, ?_⟩
    simp [walk, h.own, h.named.1, h.named.2]
  | cons raw raws ih =>
    rw [List.cons_append, walk]
    generalize (if false ∧ done = [] then asDrive raw else raw) = written
    split
    · exact ih _
    · split <;> exact ih _

theorem isSlash_iff {c : Char} : isSlash c ↔ c = '/' ∨ c = '\\' := by simp [isSlash]

theorem not_isPathEnd_of_isSlash {c : Char} (h : isSlash c) : ¬ isPathEnd c := by
  rcases isSlash_iff.1 h with rfl | rfl <;> decide

theorem isSeparator_of_special {scheme : String} (h : isSpecial scheme) : isSeparator (isSpecial scheme) = isSlash := by
  funext c
  simp [isSeparator, isSlash, h]

/-- What a segment of its own may follow. -/
def IsFront (cs : List Char) : Prop := cs = [] ∨ cs.getLast? = some '/'

theorem IsFront.of_suffix {cs ds : List Char} (h : IsFront ds) (hs : cs <:+ ds) : IsFront cs := by
  obtain ⟨before, rfl⟩ := hs
  rcases h with hnil | hlast
  · exact .inl (List.append_eq_nil_iff.1 hnil).2
  · cases hcs : cs.getLast? with
    | none => exact .inl (List.getLast?_eq_none_iff.1 hcs)
    | some c =>
      rw [List.getLast?_append, hcs] at hlast
      exact .inr (hcs.trans hlast)

theorem segmentsFrom_plain {scheme name : String} {front : List Char} (start : List String) (hn : IsPlain name)
    (hs : isSpecial scheme) (hfile : scheme ≠ "file") (hfront : IsFront front) (hu : Unmarked front) :
    ∃ parts, segmentsFrom scheme start (front ++ name.toList) = parts ++ [name] := by
  have hall : (front ++ name.toList).takeWhile (¬ isPathEnd ·) = front ++ name.toList := by
    refine List.takeWhile_eq_self_iff.2 fun c hc => ?_
    simpa using Unmarked.append_iff.2 ⟨hu, hn.unmarked⟩ c hc
  obtain ⟨raws, hraws⟩ : ∃ raws, pieces isSlash (front ++ name.toList) = raws ++ [name.toList] := by
    have hname := pieces_of_none (List.any_eq_false.1 hn.whole)
    rcases hfront with rfl | hlast
    · exact ⟨[], hname⟩
    · obtain ⟨before, rfl⟩ := List.getLast?_eq_some_iff.1 hlast
      rw [List.append_assoc, List.singleton_append, pieces_append_cons (by decide), hname]
      exact ⟨_, rfl⟩
  obtain ⟨walked, hwalked⟩ := walk_append_plain hn start.reverse raws
  refine ⟨walked.reverse, ?_⟩
  rw [segmentsFrom, hall, isSeparator_of_special hs, hraws, decide_eq_false hfile, hwalked, List.reverse_cons]

/-! ### Paths -/

@[simp] theorem withPath_scheme : (withPath u start cs).scheme = u.scheme := withTail_scheme

@[simp] theorem withPath_username : (withPath u start cs).username = u.username := withTail_username

@[simp] theorem withPath_password : (withPath u start cs).password = u.password := withTail_password

@[simp] theorem withPath_host : (withPath u start cs).host = u.host := withTail_host

@[simp] theorem withPath_port : (withPath u start cs).port = u.port := withTail_port

@[simp] theorem withPath_path : (withPath u start cs).path = .segments (segmentsFrom u.scheme start cs) := withTail_path

theorem withPath_isWhole_iff : (withPath u start cs).IsWhole ↔ Unmarked cs := by
  unfold withPath
  cases h : cs.dropWhile (¬ isPathEnd ·) with
  | nil =>
    have hcs : Unmarked cs := fun c hc => by simpa using List.dropWhile_eq_nil_iff.1 h c hc
    exact iff_of_true withTail_nil_isWhole hcs
  | cons c rest =>
    have hc : isPathEnd c := by
      have hhead := List.head?_dropWhile_not (fun c => decide (¬ isPathEnd c)) cs
      rw [h] at hhead
      simpa using hhead
    have hmem : c ∈ cs := (List.dropWhile_suffix _).subset (h ▸ List.mem_cons_self)
    exact iff_of_false (withTail_cons_not_isWhole hc) fun hu => hu c hmem hc

def openedBy : List Char → List Char
  | [] => []
  | c :: rest => if isSlash c then rest else c :: rest

theorem unmarked_openedBy_iff : Unmarked (openedBy cs) ↔ Unmarked cs := by
  cases cs with
  | nil => exact Iff.rfl
  | cons c rest =>
    rw [openedBy]
    split
    · rename_i hc
      simp [not_isPathEnd_of_isSlash hc]
    · exact Iff.rfl

theorem openedBy_suffix (cs : List Char) : openedBy cs <:+ cs := by
  cases cs with
  | nil => exact List.suffix_refl _
  | cons c rest =>
    rw [openedBy]
    split
    · exact List.suffix_cons c rest
    · exact List.suffix_refl _

theorem openedBy_append {ds : List Char} (h : cs ≠ []) : openedBy (cs ++ ds) = openedBy cs ++ ds := by
  obtain ⟨c, rest, rfl⟩ := List.exists_cons_of_ne_nil h
  rw [List.cons_append, openedBy, openedBy]
  split <;> rfl

theorem withPathAfterHost_special (h : isSpecial u.scheme) (cs : List Char) :
    withPathAfterHost u cs = withPath u [] (openedBy cs) := by
  unfold withPathAfterHost
  dsimp only
  rw [isSeparator_of_special h, h]
  cases cs with
  | nil => rfl
  | cons c rest =>
    unfold openedBy
    dsimp only
    split
    · rfl
    · simp

end ServiceLink.Url
