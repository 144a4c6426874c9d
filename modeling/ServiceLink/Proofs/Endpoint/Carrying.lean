import ServiceLink.Proofs.Endpoint.Addressing
import ServiceLink.Proofs.Url.Forming

/-! The socket address with a token. It is the socket address itself with one pair of form data behind it, and the
pair is the token's whatever the token is. -/

namespace ServiceLink.Endpoint

open Url

variable {endpoint : String} {u v : Url} {token : String}

theorem formPair_unmarked (name value : String) : Unmarked (formPair name value) := by
  intro c hc hm
  rcases mem_formPair hc with rfl | hc
  · exact absurd hm (by decide)
  · rcases isPathEnd_iff.1 hm with rfl | rfl <;> exact hc (by decide)

/-- An address with a query that is the token's one pair. -/
structure Carries (u v : Url) (token : String) : Prop where
  /-- Nothing but the query differs. -/
  address : v = { u with query := v.query }
  fragment : v.fragment = none
  /-- The query stands behind the text of the address and reads as one pair. -/
  query : ∃ q, v.text = u.text ++ "?" ++ q ∧ formRead? q.toList = some [("accesstoken", token)]
  /-- No other mark stands in the text. -/
  marks : v.text.toList.filter isPathEnd = ['?']

theorem text_withQuery (h : u.IsWhole) (q : String) : Url.text { u with query := some q } = u.text ++ "?" ++ q := by
  have hbefore : Url.text { u with query := some q } =
      u.scheme ++ ":" ++ u.authority ++ u.guardMark ++ u.path.text ++ ("?" ++ q) ++ fragmentText u := rfl
  rw [hbefore, Url.text, queryText, fragmentText, h.1, h.2]
  simp [String.append_assoc]

theorem carries_of_isAddress (h : IsAddress u) (token : String) :
    Carries u { u with query := some (String.ofList (formPair tokenParameter token)) } token where
  address := rfl
  fragment := h.whole.2
  query := by
    refine ⟨_, text_withQuery h.whole _, ?_⟩
    rw [String.toList_ofList]
    exact formRead?_formPair _ _
  marks := by
    have hnone {cs : List Char} (hcs : Unmarked cs) : cs.filter isPathEnd = [] := List.filter_eq_nil_iff.2 hcs
    rw [text_withQuery h.whole]
    simp only [String.toList_append, String.toList_ofList, List.filter_append]
    rw [hnone h.text_unmarked, hnone (formPair_unmarked _ _)]
    decide

theorem Carries.token_unique {v' : Url} {token' : String} (h : Carries u v token) (h' : Carries u v' token')
    (heq : v.text = v'.text) : token = token' := by
  obtain ⟨q, hq, hread⟩ := h.query
  obtain ⟨q', hq', hread'⟩ := h'.query
  obtain rfl : q = q' := by
    rw [hq, hq', ← String.toList_inj] at heq
    simpa [String.toList_inj] using heq
  simpa using hread.symm.trans hread'

/-- The query of a socket address reads as the one pair of its token, and nothing else of the address depends on the
token. -/
theorem token_fills_query (h : socket endpoint = .ok u) :
    (∀ token, ∃ v, socketWithToken endpoint token = .ok v ∧ Carries u v token) ∧
      Function.Injective fun token => (socketWithToken endpoint token).map Url.text := by
  have haddress : IsAddress u := isAddress_of_withScheme (by decide) (by decide) h
  have hcarries (token : String) : socketWithToken endpoint token =
      .ok { u with query := some (String.ofList (formPair tokenParameter token)) } := by
    rw [socketWithToken, h]
    rfl
  refine ⟨fun token => ⟨_, hcarries token, carries_of_isAddress haddress token⟩, fun token token' heq => ?_⟩
  simp only [hcarries, Except.map, Except.ok.injEq] at heq
  exact (carries_of_isAddress haddress token).token_unique (carries_of_isAddress haddress token') heq

theorem token_fills_query_marks :
    socket "http://me:k@H.example:81/a/../b?x=1#top" =
        .ok { scheme := "ws", username := "me", password := "k", host := some (.name "h.example"), port := some 81
              path := .segments ["b"] } ∧
      ((∀ token, ∃ v, socketWithToken "http://me:k@H.example:81/a/../b?x=1#top" token = .ok v ∧
          Carries { scheme := "ws", username := "me", password := "k", host := some (.name "h.example")
                    port := some 81, path := .segments ["b"] } v token) ∧
        Function.Injective fun token =>
          (socketWithToken "http://me:k@H.example:81/a/../b?x=1#top" token).map Url.text) ∧
      (socketWithToken "http://me:k@H.example:81/a/../b?x=1#top" "a&b=c #d%").map Url.text =
        .ok "ws://me:k@h.example:81/b?accesstoken=a%26b%3Dc+%23d%25" := by
  have hread : socket "http://me:k@H.example:81/a/../b?x=1#top" =
      .ok { scheme := "ws", username := "me", password := "k", host := some (.name "h.example"), port := some 81
            path := .segments ["b"] } := by with_unfolding_all rfl
  exact ⟨hread, token_fills_query hread, by with_unfolding_all rfl⟩

end ServiceLink.Endpoint
