import ServiceLink.Proofs.Url.Walking

/-! The server of a URL with a special scheme: the host and port that stand before the path. Every text that is read
under such a scheme names one, and all that follows it is path, query and fragment. -/

namespace ServiceLink.Url

open Text

theorem exists_of_bind_eq_ok {ε α β : Type} {x : Except ε α} {f : α → Except ε β} {b : β} (h : x >>= f = .ok b) :
    ∃ a, x = .ok a ∧ f a = .ok b := by
  cases x with
  | error e => cases h
  | ok a => exact ⟨a, rfl, h⟩

/-- A host and its port, unless that is the default. -/
structure Server where
  host : Host
  port : Option Nat
deriving DecidableEq, Repr

def authorityOf (cs : List Char) : List Char := cs.takeWhile (¬ isAuthorityEnd true ·)

def behindAuthority (cs : List Char) : List Char := cs.dropWhile (¬ isAuthorityEnd true ·)

/-- The parts of an authority around its last `@`. -/
def halves (authority : List Char) : List Char × List Char := (splitLastAt authority).getD ([], authority)

def userinfoText (cs : List Char) : String := String.ofList (percentEncode userinfoSet cs)

def usernameOf (authority : List Char) : String := userinfoText ((halves authority).1.takeWhile (· ≠ ':'))

def passwordOf (authority : List Char) : String := userinfoText ((halves authority).1.dropWhile (· ≠ ':')).tail

def readServer (scheme : String) (authority : List Char) : Except UrlError Server := do
  let place := (halves authority).2
  let n := hostLength false place
  if place.take n = [] then throw .emptyHost
  let host ← Host.special (place.take n)
  let port ← port? scheme (place.drop n).tail
  return { host, port }

def bareServer (scheme : String) (authority : List Char) (server : Server) : Url :=
  { scheme
    username := usernameOf authority
    password := passwordOf authority
    host := some server.host
    port := server.port
    path := .segments [] }

/-- What two slashes are followed by, read under a special scheme once the server is known. -/
def served (scheme : String) (cs : List Char) (server : Server) : Url :=
  withPath (bareServer scheme (authorityOf cs) server) [] (openedBy (behindAuthority cs))

section

variable {scheme : String} {cs : List Char} {server : Server}

@[simp] theorem served_scheme : (served scheme cs server).scheme = scheme := withPath_scheme

@[simp] theorem served_username : (served scheme cs server).username = usernameOf (authorityOf cs) := withPath_username

@[simp] theorem served_password : (served scheme cs server).password = passwordOf (authorityOf cs) := withPath_password

@[simp] theorem served_host : (served scheme cs server).host = some server.host := withPath_host

@[simp] theorem served_port : (served scheme cs server).port = server.port := withPath_port

@[simp] theorem served_path : (served scheme cs server).path =
    .segments (segmentsFrom scheme [] (openedBy (behindAuthority cs))) := withPath_path

end

theorem mem_of_mem_place {authority : List Char} {c : Char} (h : c ∈ (halves authority).2) : c ∈ authority := by
  unfold halves splitLastAt at h
  dsimp only at h
  split at h
  · exact h
  · exact List.mem_reverse.1 ((List.takeWhile_prefix _).subset (List.mem_reverse.1 h))

theorem ne_backslash_of_mem_place {cs : List Char} {c : Char} (h : c ∈ (halves (authorityOf cs)).2) : c ≠ '\\' := by
  rintro rfl
  exact absurd (List.mem_takeWhile_imp (mem_of_mem_place h)) (by decide)

theorem readAuthority_special {scheme : String} (h : isSpecial scheme) (cs : List Char) :
    readAuthority scheme cs = (readServer scheme (authorityOf cs)).map (served scheme cs) := by
  have hplace : ∀ c ∈ (halves (authorityOf cs)).2, c ≠ '\\' := fun c => ne_backslash_of_mem_place
  unfold readAuthority served behindAuthority
  unfold authorityOf at hplace ⊢
  simp only [h, if_true, true_and]
  generalize cs.takeWhile (¬ isAuthorityEnd true ·) = authority at hplace ⊢
  generalize cs.dropWhile (¬ isAuthorityEnd true ·) = rest
  rcases hhalves : halves authority with ⟨user, place⟩
  have hsplit : (splitLastAt authority).getD ([], authority) = (user, place) := hhalves
  simp only [hhalves] at hplace
  simp only [hsplit, readServer, hhalves]
  have hbehind : ∀ c ∈ (place.drop (hostLength false place)).tail, decide (c ≠ '\\') = true := by
    intro c hc
    simpa using hplace c (List.mem_of_mem_drop (List.mem_of_mem_tail hc))
  rw [List.takeWhile_eq_self_iff.2 hbehind, List.dropWhile_eq_nil_iff.2 hbehind]
  by_cases hname : place.take (hostLength false place) = []
  · -- without a name the two checks for an empty host agree
    rw [if_pos hname, if_pos hname]
    split <;> rfl
  · have hsome : place ≠ [] := by
      rintro rfl
      exact hname rfl
    rw [if_neg fun hempty => hsome hempty.2.2.1, if_neg hname, if_neg hname]
    cases Host.special (place.take (hostLength false place)) with
    | error e => rfl
    | ok host =>
      dsimp only [bind, Except.bind]
      rw [if_neg fun hempty => hname hempty.1]
      cases port? scheme (place.drop (hostLength false place)).tail with
      | error e => rfl
      | ok port =>
        dsimp only [pure, Except.pure, Except.map]
        rw [withPathAfterHost_special h, bareServer, usernameOf, passwordOf, hhalves]
        rfl

theorem readAuthority_eq_ok_iff {scheme : String} (h : isSpecial scheme) {cs : List Char} {u : Url} :
    readAuthority scheme cs = .ok u ↔
      ∃ server, readServer scheme (authorityOf cs) = .ok server ∧ u = served scheme cs server := by
  rw [readAuthority_special h]
  cases readServer scheme (authorityOf cs) with
  | error e => simp [Except.map]
  | ok server => simp [Except.map, eq_comm]

theorem readAuthority_nil {scheme : String} (h : isSpecial scheme) : readAuthority scheme [] = .error .emptyHost := by
  rw [readAuthority_special h]
  rfl

/-! ### Marks -/

theorem userinfoText_unmarked (cs : List Char) : Unmarked (userinfoText cs).toList := by
  rw [userinfoText, String.toList_ofList]
  exact percentEncode_unmarked (fun _ => userinfoSet_of_isPathEnd) cs

theorem readServer_unmarked {scheme : String} {authority : List Char} {server : Server}
    (h : readServer scheme authority = .ok server) : Unmarked server.host.text.toList := by
  unfold readServer at h
  dsimp only at h
  split at h
  · cases h
  · obtain ⟨host, hhost, h⟩ := exists_of_bind_eq_ok h
    obtain ⟨port, -, h⟩ := exists_of_bind_eq_ok h
    cases h
    exact Host.special_unmarked hhost

/-! ### What follows a server -/

theorem unmarked_behindAuthority_iff {cs : List Char} : Unmarked (behindAuthority cs) ↔ Unmarked cs := by
  have hauthority : Unmarked (authorityOf cs) := fun c hc hm => by
    have hinside := List.mem_takeWhile_imp hc
    simp [isAuthorityEnd, hm] at hinside
  have hparts : cs = authorityOf cs ++ behindAuthority cs := List.takeWhile_append_dropWhile.symm
  refine ⟨fun h => ?_, fun h => h.mono fun c hc => (List.dropWhile_suffix _).subset hc⟩
  rw [hparts]
  exact Unmarked.append_iff.2 ⟨hauthority, h⟩

theorem served_isWhole_iff {scheme : String} {cs : List Char} {server : Server} :
    (served scheme cs server).IsWhole ↔ Unmarked cs :=
  withPath_isWhole_iff.trans (unmarked_openedBy_iff.trans unmarked_behindAuthority_iff)

theorem authorityOf_append {cs : List Char} (h : '/' ∈ cs) (ds : List Char) :
    authorityOf (cs ++ ds) = authorityOf cs ∧ behindAuthority (cs ++ ds) = behindAuthority cs ++ ds ∧
      behindAuthority cs ≠ [] := by
  have hends : behindAuthority cs ≠ [] := fun hnil =>
    absurd (List.dropWhile_eq_nil_iff.1 hnil '/' h) (by decide)
  refine ⟨?_, ?_, hends⟩
  · unfold authorityOf
    rw [List.takeWhile_append, if_neg fun hall => ?_]
    have hself := (List.takeWhile_prefix _).eq_of_length hall
    exact absurd (List.takeWhile_eq_self_iff.1 hself '/' h) (by decide)
  · unfold behindAuthority
    rw [List.dropWhile_append]
    exact if_neg fun hnil => hends (List.isEmpty_iff.1 hnil)

theorem served_plain {scheme name : String} {cs : List Char} (server : Server) (hn : IsPlain name)
    (hs : isSpecial scheme) (hfile : scheme ≠ "file") (hcs : cs.getLast? = some '/') (hu : Unmarked cs) :
    ∃ parts, (served scheme (cs ++ name.toList) server).path = .segments (parts ++ [name]) := by
  obtain ⟨-, hbehind, hsome⟩ := authorityOf_append (List.mem_of_getLast? hcs) name.toList
  have hsuffix : openedBy (behindAuthority cs) <:+ cs := (openedBy_suffix _).trans (List.dropWhile_suffix _)
  obtain ⟨parts, hparts⟩ := segmentsFrom_plain [] hn hs hfile (IsFront.of_suffix (.inr hcs) hsuffix)
    (hu.mono fun c hc => hsuffix.subset hc)
  refine ⟨parts, ?_⟩
  rw [served_path, hbehind, openedBy_append hsome, hparts]

/-! ### Schemes -/

@[simp] theorem withPathAfterHost_scheme {u : Url} {cs : List Char} : (withPathAfterHost u cs).scheme = u.scheme := by
  unfold withPathAfterHost
  dsimp only
  split
  · split
    · exact withPath_scheme
    · rfl
  · split
    · exact withPath_scheme
    · split
      · exact withTail_scheme
      · exact withPath_scheme

@[simp] theorem withFilePath_scheme {u : Url} : (withFilePath u).scheme = u.scheme := by
  unfold withFilePath
  split <;> rfl

theorem scheme_of_readAuthority {scheme : String} {cs : List Char} {u : Url} (h : readAuthority scheme cs = .ok u) :
    u.scheme = scheme := by
  unfold readAuthority at h
  dsimp only at h
  split at h
  · cases h
  · split at h
    · cases h
    · split at h
      all_goals
        obtain ⟨host, -, h⟩ := exists_of_bind_eq_ok h
        split at h
        · cases h
        · obtain ⟨port, -, h⟩ := exists_of_bind_eq_ok h
          cases h
          exact withPathAfterHost_scheme

theorem scheme_of_readPlain {scheme : String} {cs : List Char} {u : Url} (h : readPlain scheme cs = .ok u) :
    u.scheme = scheme := by
  unfold readPlain at h
  split at h
  · exact scheme_of_readAuthority h
  · cases h
    exact withPath_scheme
  · cases h
    exact withTail_scheme

theorem scheme_of_readFileHost {bare u : Url} {cs : List Char} (h : readFileHost bare cs = .ok u) :
    u.scheme = bare.scheme := by
  unfold readFileHost at h
  dsimp only at h
  split at h
  · cases h
    exact withPath_scheme
  · split at h
    · cases h
      exact withPath_scheme
    · obtain ⟨host, -, h⟩ := exists_of_bind_eq_ok h
      split at h
      · cases h
        exact withPath_scheme
      · cases h
        exact withPathAfterHost_scheme

theorem scheme_of_readFile {cs : List Char} {u : Url} (h : readFile cs = .ok u) : u.scheme = "file" := by
  unfold readFile at h
  dsimp only at h
  split at h
  · split at h
    · obtain ⟨v, hv, h⟩ := exists_of_bind_eq_ok h
      cases h
      exact withFilePath_scheme.trans (scheme_of_readFileHost hv)
    · cases h
      exact withFilePath_scheme.trans withPathAfterHost_scheme
  · cases h
    exact withFilePath_scheme.trans withPathAfterHost_scheme

def webSchemes : List String := ["https", "wss", "http", "ws"]

theorem web_scheme {scheme : String} (h : scheme ∈ webSchemes) : isSpecial scheme ∧ scheme ≠ "file" := by
  simp only [webSchemes, List.mem_cons, List.not_mem_nil, or_false] at h
  rcases h with rfl | rfl | rfl | rfl <;> decide

theorem served_of_read {text : String} {u : Url} (h : read none text = .ok u) (hu : u.scheme ∈ webSchemes) :
    ∃ cs server, readServer u.scheme (authorityOf cs) = .ok server ∧ u = served u.scheme cs server := by
  obtain ⟨hspecial, hfile⟩ := web_scheme hu
  unfold read at h
  dsimp only at h
  split at h
  · rename_i scheme rest _ _
    split at h
    · exact absurd (scheme_of_readFile h) hfile
    · split at h
      · rename_i hplain
        exact absurd (scheme_of_readPlain h ▸ hspecial) hplain
      · have hscheme := scheme_of_readAuthority h
        exact ⟨_, (readAuthority_eq_ok_iff hspecial).1 (hscheme.symm ▸ h)⟩
  · contradiction
  · cases h

end ServiceLink.Url
