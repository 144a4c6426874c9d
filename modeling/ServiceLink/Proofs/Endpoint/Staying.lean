import ServiceLink.Client.Options
import ServiceLink.Proofs.Endpoint.Addressing
import ServiceLink.Proofs.Url.Referring

/-! Where tokens are asked for. The services path is read as a reference, and with two slashes at its start it names
a server of its own. -/

namespace ServiceLink.Endpoint

open Url Text

variable {endpoint path : String} {base u : Url}

/-- A URL on the server of the base, for the method that hands out tokens. -/
structure StaysAt (base u : Url) : Prop where
  scheme : u.scheme = base.scheme
  host : u.host = base.host
  port : u.port = base.port
  whole : u.IsWhole
  method : ∃ front, u.path.text = front ++ "/GetWebSocketToken"

/-- A path that does not lead away: it has no marks, and if two slashes open it, what is read behind them is the
server of the base. -/
structure KeepsTo (base : Url) (path : String) : Prop where
  unmarked : Unmarked path.toList
  server : ∀ cs, behindSlashes? (counted path.toList) = some cs →
    ∃ v, readAuthority base.scheme cs = .ok v ∧ v.host = base.host ∧ v.port = base.port

theorem tokenMethod_isPlain : IsPlain tokenMethod where
  own := by decide
  unmarked := by decide
  whole := by decide
  named := by decide +kernel

theorem text_append_tokenMethod (parts : List String) :
    ∃ front, (UrlPath.segments (parts ++ [tokenMethod])).text = front ++ "/GetWebSocketToken" := by
  refine ⟨(UrlPath.segments parts).text, ?_⟩
  rw [UrlPath.text, UrlPath.text, List.map_append, String.join_append]
  rfl

theorem clean_servicesPath (hhead : path.toList.head? = some '/') :
    clean (path ++ tokenMethod) = counted path.toList ++ tokenMethod.toList := by
  have hfirst : (path ++ tokenMethod).toList.head? = some '/' := by
    rw [String.toList_append, List.head?_append, hhead]
    rfl
  have hlast : (path ++ tokenMethod).toList.getLast? = some 'n' := by
    rw [String.toList_append, List.getLast?_append]
    rfl
  rw [clean_of_ends hfirst (by decide) hlast (by decide), String.toList_append, counted_append]
  rfl

theorem counted_ends (hhead : path.toList.head? = some '/') (hlast : path.toList.getLast? = some '/') :
    ∃ rest, counted path.toList = '/' :: rest ∧ (counted path.toList).getLast? = some '/' := by
  obtain ⟨behind, hbehind⟩ := List.head?_eq_some_iff.1 hhead
  obtain ⟨before, hbefore⟩ := List.getLast?_eq_some_iff.1 hlast
  refine ⟨counted behind, ?_, ?_⟩
  · rw [hbehind]
    rfl
  · rw [hbefore, counted_append, List.getLast?_append]
    rfl

/-! ### One slash, and two -/

theorem staysAt_withPath_iff (hb : IsAddress base) {rest : List Char} (hrest : IsFront rest) :
    StaysAt base (withPath { base with query := none, fragment := none } [] (rest ++ tokenMethod.toList)) ↔
      Unmarked rest := by
  have hwhole : (withPath { base with query := none, fragment := none } [] (rest ++ tokenMethod.toList)).IsWhole ↔
      Unmarked rest := by
    rw [withPath_isWhole_iff, Unmarked.append_iff, and_iff_left tokenMethod_isPlain.unmarked]
  refine ⟨fun h => hwhole.1 h.whole, fun h => ?_⟩
  obtain ⟨hspecial, hfile⟩ := web_scheme hb.web
  obtain ⟨parts, hparts⟩ := segmentsFrom_plain [] tokenMethod_isPlain hspecial hfile hrest h
  exact {
    scheme := withPath_scheme
    host := withPath_host
    port := withPath_port
    whole := hwhole.2 h
    method := by
      rw [withPath_path, hparts]
      exact text_append_tokenMethod parts }

theorem staysAt_served_iff (hb : IsAddress base) {cs : List Char} (hcs : IsFront cs) {server : Server} :
    StaysAt base (served base.scheme (cs ++ tokenMethod.toList) server) ↔
      cs ≠ [] ∧ Unmarked cs ∧ some server.host = base.host ∧ server.port = base.port := by
  have hwhole : (served base.scheme (cs ++ tokenMethod.toList) server).IsWhole ↔ Unmarked cs := by
    rw [served_isWhole_iff, Unmarked.append_iff, and_iff_left tokenMethod_isPlain.unmarked]
  constructor
  · intro h
    refine ⟨?_, hwhole.1 h.whole, by simpa using h.host, by simpa using h.port⟩
    -- with nothing before it the method would be the host, and the path empty
    rintro rfl
    obtain ⟨front, hfront⟩ := h.method
    have hpath : (served base.scheme tokenMethod.toList server).path.text = "/" := by
      have hbehind : openedBy (behindAuthority tokenMethod.toList) = [] := by decide
      have hempty : (walk false [] [[]]).reverse = [""] := by decide +kernel
      rw [served_path, hbehind, segmentsFrom, decide_eq_false (web_scheme hb.web).2]
      exact congrArg (UrlPath.text ∘ UrlPath.segments) hempty
    rw [List.nil_append, hpath] at hfront
    have hlength := congrArg String.length hfront
    rw [String.length_append] at hlength
    change 1 = front.length + 18 at hlength
    omega
  · rintro ⟨hsome, hmarks, hhost, hport⟩
    obtain ⟨hspecial, hfile⟩ := web_scheme hb.web
    obtain ⟨parts, hparts⟩ := served_plain server tokenMethod_isPlain hspecial hfile
      (hcs.resolve_left hsome) hmarks
    exact {
      scheme := served_scheme
      host := served_host.trans hhost
      port := served_port.trans hport
      whole := hwhole.2 hmarks
      method := by
        rw [hparts]
        exact text_append_tokenMethod parts }

theorem staysAt_readAuthority_iff (hb : IsAddress base) {cs : List Char} (hcs : IsFront cs) :
    (∃ u, readAuthority base.scheme (cs ++ tokenMethod.toList) = .ok u ∧ StaysAt base u) ↔
      Unmarked cs ∧ ∃ v, readAuthority base.scheme cs = .ok v ∧ v.host = base.host ∧ v.port = base.port := by
  have hspecial := (web_scheme hb.web).1
  have hauthority (hsome : cs ≠ []) : authorityOf (cs ++ tokenMethod.toList) = authorityOf cs :=
    (authorityOf_append (List.mem_of_getLast? (hcs.resolve_left hsome)) _).1
  constructor
  · rintro ⟨u, hu, hstays⟩
    obtain ⟨server, hserver, rfl⟩ := (readAuthority_eq_ok_iff hspecial).1 hu
    obtain ⟨hsome, hmarks, hhost, hport⟩ := (staysAt_served_iff hb hcs).1 hstays
    rw [hauthority hsome] at hserver
    exact ⟨hmarks, _, (readAuthority_eq_ok_iff hspecial).2 ⟨server, hserver, rfl⟩, served_host.trans hhost,
      served_port.trans hport⟩
  · rintro ⟨hmarks, v, hv, hhost, hport⟩
    have hsome : cs ≠ [] := by
      rintro rfl
      rw [readAuthority_nil hspecial] at hv
      cases hv
    obtain ⟨server, hserver, rfl⟩ := (readAuthority_eq_ok_iff hspecial).1 hv
    rw [← hauthority hsome] at hserver
    exact ⟨_, (readAuthority_eq_ok_iff hspecial).2 ⟨server, hserver, rfl⟩, (staysAt_served_iff hb hcs).2
      ⟨hsome, hmarks, served_host.symm.trans hhost, served_port.symm.trans hport⟩⟩

/-! ### Checked options -/

theorem of_check {options : Client.Options} (h : options.check endpoint = .ok ()) :
    (∃ base, http endpoint = .ok base) ∧ options.servicesPath.toList.head? = some '/' ∧
      options.servicesPath.toList.getLast? = some '/' := by
  obtain ⟨u, hu, h⟩ := exists_of_bind_eq_ok h
  obtain ⟨v, hread, hv, -⟩ := withScheme_eq_ok_iff.1 hu
  refine ⟨⟨_, withScheme_eq_ok_iff.2 ⟨v, hread, hv, rfl⟩⟩, ?_⟩
  dsimp only at h
  split at h
  · cases h
  · rename_i hends
    simpa using hends

theorem token_eq_ok_iff (hbase : http endpoint = .ok base) {parts : List String}
    (hparts : base.path = .segments parts) {rest : List Char} (hhead : path.toList.head? = some '/')
    (hpath : counted path.toList = '/' :: rest) :
    token endpoint path = .ok u ↔
      (match behindSlashes? ('/' :: rest) with
        | some cs => readAuthority base.scheme (cs ++ tokenMethod.toList)
        | none => .ok (withPath { base with query := none, fragment := none } [] (rest ++ tokenMethod.toList))) =
        .ok u := by
  have hclean : clean (path ++ tokenMethod) = '/' :: (rest ++ tokenMethod.toList) := by
    rw [clean_servicesPath hhead, hpath, List.cons_append]
  have hmethod : behindSlashes? ('/' :: (rest ++ tokenMethod.toList)) =
      (behindSlashes? ('/' :: rest)).map (· ++ tokenMethod.toList) :=
    behindSlashes?_append (d := 'G') (by decide) rest
  rw [token, hbase]
  refine mapError_eq_ok_iff.trans (iff_of_eq (congrArg (· = _) ?_))
  rw [read_slash hclean hparts, readRelative_slash, hmethod]
  cases behindSlashes? ('/' :: rest) <;> rfl

theorem keepsTo_iff {rest : List Char} (hpath : counted path.toList = '/' :: rest) :
    KeepsTo base path ↔ Unmarked rest ∧ ∀ cs, behindSlashes? ('/' :: rest) = some cs →
      ∃ v, readAuthority base.scheme cs = .ok v ∧ v.host = base.host ∧ v.port = base.port := by
  have hmarks : Unmarked path.toList ↔ Unmarked rest := by
    rw [← unmarked_counted_iff, hpath, Unmarked.cons_iff, and_iff_right (by decide)]
  rw [← hmarks, ← hpath]
  exact ⟨fun h => ⟨h.unmarked, h.server⟩, fun h => ⟨h.1, h.2⟩⟩

/-- Of the options that `Options.check` accepts, exactly those keep the token request on the server of the endpoint
whose services path does not lead away. -/
theorem token_stays_iff {options : Client.Options} (h : options.check endpoint = .ok ()) :
    ∃ base, http endpoint = .ok base ∧
      ((∃ u, token endpoint options.servicesPath = .ok u ∧ StaysAt base u) ↔
        KeepsTo base options.servicesPath) := by
  obtain ⟨⟨base, hbase⟩, hhead, hlast⟩ := of_check h
  refine ⟨base, hbase, ?_⟩
  have hb : IsAddress base := isAddress_of_withScheme (by decide) (by decide) hbase
  obtain ⟨parts, hparts, -⟩ := hb.path
  obtain ⟨rest, hpath, hend⟩ := counted_ends hhead hlast
  have hfront : IsFront rest := IsFront.of_suffix (.inr (hpath ▸ hend)) (List.suffix_cons '/' rest)
  simp only [token_eq_ok_iff hbase hparts hhead hpath, keepsTo_iff hpath]
  cases hbehind : behindSlashes? ('/' :: rest) with
  | none =>
    have hstays := staysAt_withPath_iff hb hfront
    simpa using hstays
  | some cs =>
    obtain ⟨slashes, hslashes, rfl⟩ := exists_of_behindSlashes? hbehind
    have hmarks : Unmarked (slashes ++ cs) ↔ Unmarked cs :=
      Unmarked.append_iff.trans (and_iff_right fun c hc => not_isPathEnd_of_isSlash (hslashes c hc))
    have hstays := staysAt_readAuthority_iff hb (hfront.of_suffix (List.suffix_append slashes cs))
    simpa [hmarks] using hstays

theorem token_stays_iff_backslash :
    ({ servicesPath := "/\\LOCALHOST:80/api/" } : Client.Options).check "ws://localhost/" = .ok () ∧
      (∃ base, http "ws://localhost/" = .ok base ∧
        ((∃ u, token "ws://localhost/" "/\\LOCALHOST:80/api/" = .ok u ∧ StaysAt base u) ↔
          KeepsTo base "/\\LOCALHOST:80/api/")) ∧
      (token "ws://localhost/" "/\\LOCALHOST:80/api/").map Url.text =
        .ok "http://localhost/api/GetWebSocketToken" := by
  have hcheck : ({ servicesPath := "/\\LOCALHOST:80/api/" } : Client.Options).check "ws://localhost/" = .ok () := by
    with_unfolding_all rfl
  have hstays := token_stays_iff hcheck
  refine ⟨hcheck, hstays, ?_⟩
  with_unfolding_all rfl

/-- With two slashes at its start the services path names the server that is asked for the token. -/
theorem token_leaves_server :
    ({ servicesPath := "//evil.example/" } : Client.Options).check "http://localhost:4840" = .ok () ∧
      (token "http://localhost:4840" "//evil.example/").map Url.text =
        .ok "http://evil.example/GetWebSocketToken" ∧
      ¬ ∃ base, http "http://localhost:4840" = .ok base ∧
        ∃ u, token "http://localhost:4840" "//evil.example/" = .ok u ∧ StaysAt base u := by
  have hbase : http "http://localhost:4840" =
      .ok { scheme := "http", host := some (.name "localhost"), port := some 4840, path := .segments [""] } := by
    with_unfolding_all rfl
  have htoken : token "http://localhost:4840" "//evil.example/" =
      .ok { scheme := "http", host := some (.name "evil.example"), path := .segments ["GetWebSocketToken"] } := by
    with_unfolding_all rfl
  refine ⟨by with_unfolding_all rfl, ?_, ?_⟩
  · rw [htoken]
    with_unfolding_all rfl
  · rintro ⟨base, hb, u, hu, hstays⟩
    obtain rfl := Except.ok.inj (hbase.symm.trans hb)
    obtain rfl := Except.ok.inj (htoken.symm.trans hu)
    exact absurd hstays.host (by decide)

end ServiceLink.Endpoint
