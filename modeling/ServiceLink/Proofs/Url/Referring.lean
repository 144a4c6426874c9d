import ServiceLink.Proofs.Url.Serving

/-! References that begin with a slash. One slash opens a path on the server of the base; behind two stands a server
of their own. -/

namespace ServiceLink.Url

open Text

variable {base : Url} {parts : List String} {cs ds : List Char}

def counted (cs : List Char) : List Char := cs.filter fun c => ¬ (c = '\t' ∨ c = '\n' ∨ c = '\r')

theorem counted_append : counted (cs ++ ds) = counted cs ++ counted ds := List.filter_append ..

theorem unmarked_counted_iff : Unmarked (counted cs) ↔ Unmarked cs := by
  refine ⟨fun h c hc hm => h c (List.mem_filter.2 ⟨hc, ?_⟩) hm, fun h => h.mono fun c hc => (List.mem_filter.1 hc).1⟩
  rcases isPathEnd_iff.1 hm with rfl | rfl <;> decide

theorem clean_of_ends {text : String} {a b : Char} (hhead : text.toList.head? = some a) (ha : ¬ isTrimmed a)
    (hlast : text.toList.getLast? = some b) (hb : ¬ isTrimmed b) : clean text = counted text.toList := by
  have hdrop {l : List Char} {c : Char} (hl : l.head? = some c) (hc : ¬ isTrimmed c) : l.dropWhile isTrimmed = l := by
    obtain ⟨rest, rfl⟩ := List.head?_eq_some_iff.1 hl
    exact List.dropWhile_cons_of_neg hc
  unfold clean
  rw [hdrop hhead ha, hdrop (by rwa [List.head?_reverse]) hb, List.reverse_reverse]
  rfl

/-- What stands behind two slashes. If the second is a backslash, slashes that follow it do not count. -/
def behindSlashes? : List Char → Option (List Char)
  | '/' :: '/' :: rest => some rest
  | '/' :: '\\' :: rest => some (rest.dropWhile isSlash)
  | _ => none

theorem behindSlashes?_of_not {c : Char} (hc : ¬ isSlash c) (rest : List Char) :
    behindSlashes? ('/' :: c :: rest) = none := by
  unfold behindSlashes?
  split
  · rename_i heq
    cases heq
    exact absurd (by decide) hc
  · rename_i heq
    cases heq
    exact absurd (by decide) hc
  · rfl

theorem behindSlashes?_append {d : Char} (hd : ¬ isSlash d) (cs : List Char) :
    behindSlashes? ('/' :: cs ++ d :: ds) = (behindSlashes? ('/' :: cs)).map (· ++ d :: ds) := by
  match cs with
  | [] => exact behindSlashes?_of_not hd ds
  | c :: rest =>
    by_cases hc : isSlash c
    · obtain rfl | rfl := isSlash_iff.1 hc
      · rfl
      · simp only [List.cons_append, behindSlashes?, Option.map_some, Option.some.injEq]
        rw [List.dropWhile_append]
        split
        · rename_i hnone
          rw [List.isEmpty_iff.1 hnone, List.dropWhile_cons_of_neg hd]
          rfl
        · rfl
    · rw [List.cons_append, List.cons_append, behindSlashes?_of_not hc, behindSlashes?_of_not hc]
      rfl

theorem exists_of_behindSlashes? (h : behindSlashes? ('/' :: cs) = some ds) :
    ∃ slashes, (∀ c ∈ slashes, isSlash c) ∧ cs = slashes ++ ds := by
  unfold behindSlashes? at h
  split at h
  · rename_i heq
    cases h
    cases heq
    exact ⟨['/'], List.forall_mem_singleton.2 (by decide), rfl⟩
  · rename_i rest heq
    cases h
    cases heq
    refine ⟨'\\' :: rest.takeWhile isSlash, List.forall_mem_cons.2 ⟨by decide, fun _ => List.mem_takeWhile_imp⟩, ?_⟩
    rw [List.cons_append, List.takeWhile_append_dropWhile]
  · cases h

theorem read_slash {text : String} {rest : List Char} (hclean : clean text = '/' :: rest)
    (hbase : base.path = .segments parts) : read (some base) text = readRelative base parts ('/' :: rest) := by
  have hscheme : scheme? ('/' :: rest) = none := by
    have htake : ('/' :: rest).takeWhile isSchemeChar = [] := List.takeWhile_cons_of_neg (by decide)
    rw [scheme?, htake]
  unfold read
  dsimp only
  rw [hclean, hscheme]
  dsimp only
  rw [hbase]

theorem readRelative_slash (rest : List Char) :
    readRelative base parts ('/' :: rest) =
      match behindSlashes? ('/' :: rest) with
      | some cs => readAuthority base.scheme cs
      | none => .ok (withPath { base with query := none, fragment := none } [] rest) := by
  match rest with
  | [] => rfl
  | c :: rest =>
    by_cases hc : isSlash c
    · obtain rfl | rfl := isSlash_iff.1 hc
      · rfl
      · rfl
    · have hslash : isSlash '/' := by decide
      rw [behindSlashes?_of_not hc]
      simp [readRelative, hc, hslash]

end ServiceLink.Url
