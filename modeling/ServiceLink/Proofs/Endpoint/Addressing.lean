import ServiceLink.Endpoint
import ServiceLink.Proofs.Url.Serving

/-! What every address of an endpoint is: a server under a scheme of the web, with a path and nothing behind it.
Its text holds no mark. -/

namespace ServiceLink.Endpoint

open Url

variable {secure plain endpoint : String} {u v : Url}

/-! ### Reading an endpoint -/

@[simp] theorem mapError_eq_ok_iff {ε ε' α : Type} {f : ε → ε'} {x : Except ε α} {a : α} :
    x.mapError f = .ok a ↔ x = .ok a := by
  cases x <;> simp [Except.mapError]

/-- The scheme of a pair that is as secure as another. -/
def matching (secure plain scheme : String) : String :=
  if scheme = "https" ∨ scheme = "wss" then secure else plain

theorem withScheme_eq_ok_iff : withScheme secure plain endpoint = .ok u ↔
    ∃ v, Url.read none endpoint = .ok v ∧ v.scheme ∈ webSchemes ∧
      u = { v with scheme := matching secure plain v.scheme, query := none, fragment := none } := by
  constructor
  · intro h
    obtain ⟨v, hread, h⟩ := exists_of_bind_eq_ok h
    refine ⟨v, mapError_eq_ok_iff.1 hread, ?_⟩
    dsimp only at h
    split at h
    · rename_i hsecure
      cases h
      exact ⟨by rcases hsecure with h | h <;> simp [webSchemes, h], by rw [matching, if_pos hsecure]⟩
    · rename_i hsecure
      split at h
      · rename_i hplain
        cases h
        exact ⟨by rcases hplain with h | h <;> simp [webSchemes, h], by rw [matching, if_neg hsecure]⟩
      · cases h
  · rintro ⟨v, hread, hv, rfl⟩
    unfold withScheme
    rw [hread, matching]
    dsimp only [Except.mapError, bind, Except.bind]
    split
    · rfl
    · rename_i hsecure
      have hplain : v.scheme = "http" ∨ v.scheme = "ws" := by simp_all [webSchemes]
      rw [if_pos hplain]
      rfl

/-! ### Addresses -/

/-- What holds of every address of an endpoint. -/
structure IsAddress (u : Url) : Prop where
  web : u.scheme ∈ webSchemes
  username : Unmarked u.username.toList
  password : Unmarked u.password.toList
  host : ∃ host, u.host = some host ∧ Unmarked host.text.toList
  path : ∃ parts, u.path = .segments parts ∧ ∀ s ∈ parts, Unmarked s.toList
  whole : u.IsWhole

theorem isAddress_of_withScheme (hs : secure ∈ webSchemes) (hp : plain ∈ webSchemes)
    (h : withScheme secure plain endpoint = .ok u) : IsAddress u := by
  obtain ⟨v, hread, hv, rfl⟩ := withScheme_eq_ok_iff.1 h
  obtain ⟨cs, server, hserver, hcs⟩ := served_of_read hread hv
  have hparts : ∀ s ∈ segmentsFrom v.scheme [] (openedBy (behindAuthority cs)), Unmarked s.toList :=
    segmentsFrom_unmarked v.scheme (fun _ h => absurd h List.not_mem_nil) _
  rw [hcs]
  exact {
    web := by
      unfold matching
      split
      · exact hs
      · exact hp
    username := by
      rw [served_username]
      exact userinfoText_unmarked _
    password := by
      rw [served_password]
      exact userinfoText_unmarked _
    host := ⟨server.host, by simp, readServer_unmarked hserver⟩
    path := ⟨segmentsFrom v.scheme [] (openedBy (behindAuthority cs)), by simp, hparts⟩
    whole := ⟨rfl, rfl⟩ }

namespace IsAddress

theorem path_unmarked (h : IsAddress u) : Unmarked u.path.text.toList := by
  obtain ⟨parts, hpath, hparts⟩ := h.path
  rw [hpath, UrlPath.text, String.toList_join]
  refine .flatMap fun segment hs => ?_
  obtain ⟨part, hpart, rfl⟩ := List.mem_map.1 hs
  have hslash : Unmarked "/".toList := by decide
  rw [String.toList_append, Unmarked.append_iff]
  exact ⟨hslash, hparts part hpart⟩

theorem credentials_unmarked (h : IsAddress u) : Unmarked u.credentials.toList := by
  unfold credentials
  split
  · exact .nil
  · split <;> simp [h.username, h.password, isPathEnd]

theorem authority_unmarked (h : IsAddress u) : Unmarked u.authority.toList := by
  obtain ⟨host, hhost, hmarks⟩ := h.host
  rw [authority, hhost]
  simp only [String.toList_append, Unmarked.append_iff]
  refine ⟨⟨⟨by decide, h.credentials_unmarked⟩, hmarks⟩, ?_⟩
  split
  · exact .nil
  · rw [String.toList_append, Unmarked.append_iff]
    exact ⟨by decide, toString_unmarked _⟩

theorem text_unmarked (h : IsAddress u) : Unmarked u.text.toList := by
  have hscheme : Unmarked u.scheme.toList := by
    have hweb := h.web
    simp only [webSchemes, List.mem_cons, List.not_mem_nil, or_false] at hweb
    rcases hweb with hs | hs | hs | hs <;> rw [hs] <;> decide
  have hguard : u.guardMark = "" := by
    obtain ⟨host, hhost, -⟩ := h.host
    rw [guardMark, hhost]
  rw [Url.text, queryText, fragmentText, h.whole.1, h.whole.2, hguard]
  simp only [String.toList_append, Unmarked.append_iff]
  exact ⟨⟨⟨⟨⟨⟨hscheme, by decide⟩, h.authority_unmarked⟩, .nil⟩, h.path_unmarked⟩, .nil⟩, .nil⟩

end IsAddress
end ServiceLink.Endpoint
