import ServiceLink.Proofs.Link.Doing
import ServiceLink.Proofs.Subscription.Binding

/-! Listeners in the course of time. The history of a link alone tells which handlers stand: each from its
registration until it is removed or the link goes. A notification invokes those that stand for its method. The
roster keeps the same handlers in rows, one for each method. -/

namespace ServiceLink

def Dict.filterMap {α β : Type} (d : Dict α) (f : α → Option β) : Dict β where
  entries := d.entries.filterMap fun e => (f e.2).map (e.1, ·)
  ordered := by
    refine List.Pairwise.filterMap _ (fun a b hab a' ha b' hb => ?_) d.ordered
    obtain ⟨x, -, rfl⟩ := Option.map_eq_some_iff.1 ha
    obtain ⟨y, -, rfl⟩ := Option.map_eq_some_iff.1 hb
    exact hab

theorem Dict.find?_filterMap {α β : Type} {d : Dict α} {k : String} {f : α → Option β} :
    (d.filterMap f).find? k = (d.find? k).bind f := by
  ext b
  rw [Dict.find?_eq_some_iff, Option.bind_eq_some_iff]
  simp only [Dict.find?_eq_some_iff, Dict.filterMap, List.mem_filterMap, Option.map_eq_some_iff,
    Prod.mk.injEq, Prod.exists]
  constructor
  · rintro ⟨k', a, hmem, b', hb, rfl, rfl⟩
    exact ⟨a, hmem, hb⟩
  · rintro ⟨a, hmem, hb⟩
    exact ⟨k, a, hmem, b, hb, rfl, rfl⟩

namespace Link

variable {κ : Type}

/-! ### What a history holds -/

namespace Doing

/-- The method and the handler of a registration. -/
def registers? : Doing κ → Option (String × κ)
  | .acted _ (.listen method handler) => some (method, handler)
  | _ => none

def removes (id : Nat) : Doing κ → Bool
  | .acted _ (.unlisten i) => i = id
  | .dropped => true
  | _ => false

def notifications : Doing κ → List Rpc.Notification
  | .acted _ (.frame text) => (Rpc.Frame.read text).messages.filterMap Rpc.Message.push?
  | _ => []

/-- The id that one who registers a handler gets. -/
def given? (l : Link κ) : Doing κ → Option Nat
  | .acted now a =>
    match (l.act now a).1 with
    | .listener id => some id
    | _ => none
  | _ => none

end Doing

def registrations (ds : List (Doing κ)) : Nat := (ds.filterMap Doing.registers?).length

/-- The handlers that stand after a history which begins with `n` registered: of its registrations, in their
order, those that nothing later removes. -/
def standing (n : Nat) : List (Doing κ) → List (Listener κ)
  | [] => []
  | d :: ds =>
    match d.registers? with
    | none => standing n ds
    | some (method, handler) =>
      (if ds.any (·.removes n) then [] else [⟨n, method, handler⟩]) ++ standing (n + 1) ds

/-- What a notification invokes after a history: the handlers that stand for its method. -/
def invoked (ds : List (Doing κ)) (n : Rpc.Notification) : List (κ × Rpc.Notification) :=
  ((standing 0 ds).filter (·.method = n.method)).map fun x => (x.handler, n)

def invocations (before : List (Doing κ)) : List (Doing κ) → List (κ × Rpc.Notification)
  | [] => []
  | d :: ds => d.notifications.flatMap (invoked before) ++ invocations (before ++ [d]) ds

/-- The ids given in the course of a history. -/
def given (l : Dialing κ) : List (Doing κ) → List Nat
  | [] => []
  | d :: ds => (d.given? l.link).toList ++ given (d.onto l) ds

def Stands (ds : List (Doing κ)) (x : Listener κ) : Prop :=
  ∃ before now after, ds = before ++ .acted now (.listen x.method x.handler) :: after ∧
    registrations before = x.id ∧ ∀ d ∈ after, ¬ d.removes x.id

/-! ### One doing -/

/-- What a doing makes of the listeners of a link, and what it delivers to them. -/
structure Doing.Lists (d : Doing κ) (l l' : Link κ) : Prop where
  listeners : l'.listeners = l.listeners.filter (¬ d.removes ·.id) ++
    (d.registers?.map fun r => ⟨l.nextListener, r.1, r.2⟩).toList
  next : l'.nextListener = l.nextListener + d.registers?.toList.length
  deliveries : l'.deliveries = l.deliveries ++
    d.notifications.flatMap fun n => (l.handlersFor n.method).map (·, n)

theorem echoes_eq (l : Link κ) (m : Rpc.Message) :
    l.echoes m = m.push?.toList.flatMap fun n => (l.handlersFor n.method).map (·, n) := by
  cases m with
  | notification n => exact (List.append_nil _).symm
  | response | error | call | invalid | unknown => rfl

theorem foldl_receive_eq (l : Link κ) (messages : List Rpc.Message) :
    messages.foldl receive l =
      { l with
        calls := messages.foldl Calls.hear l.calls
        deliveries := l.deliveries ++ messages.flatMap l.echoes } := by
  induction messages generalizing l with
  | nil => simp
  | cons m messages ih =>
    have hsame : ∀ m', (l.receive m).echoes m' = l.echoes m' := by
      rw [receive_eq]
      intro m'
      cases m' <;> rfl
    rw [List.foldl_cons, ih, List.flatMap_congr fun m' _ => hsame m', receive_eq]
    simp [List.append_assoc]

namespace Doing

variable {l l' : Link κ}

theorem Lists.of_same {d : Doing κ} (hlisteners : l'.listeners = l.listeners)
    (hnext : l'.nextListener = l.nextListener) (hdeliveries : l'.deliveries = l.deliveries)
    (hregisters : d.registers? = none) (hremoves : ∀ id, d.removes id = false)
    (hnotifications : d.notifications = []) : d.Lists l l' where
  listeners := by simp [hlisteners, hregisters, hremoves]
  next := by simp [hnext, hregisters]
  deliveries := by simp [hdeliveries, hnotifications]

theorem Lists.of_unheard {d : Doing κ} (h : l.Unheard l') (hregisters : d.registers? = none)
    (hremoves : ∀ id, d.removes id = false) (hnotifications : d.notifications = []) : d.Lists l l' :=
  .of_same h.listeners h.nextListener h.deliveries hregisters hremoves hnotifications

theorem Lists.of_socketOnly {d : Doing κ} (h : l.SocketOnly l') (hregisters : d.registers? = none)
    (hremoves : ∀ id, d.removes id = false) (hnotifications : d.notifications = []) : d.Lists l l' :=
  .of_same h.listeners h.nextListener h.deliveries hregisters hremoves hnotifications

theorem lists_frame (l : Link κ) (now : Nat) (text : String) :
    (acted now (.frame text)).Lists l (l.handleFrame text) := by
  have hreply := (statusOnly_handleFrame l text).toSocketOnly
  rw [foldl_receive_eq] at hreply
  refine ⟨by simp [hreply.listeners, removes, registers?], by simp [hreply.nextListener, registers?], ?_⟩
  have hechoes : (Rpc.Frame.read text).messages.flatMap l.echoes =
      ((Rpc.Frame.read text).messages.filterMap Rpc.Message.push?).flatMap fun n =>
        (l.handlersFor n.method).map (·, n) := by
    rw [List.filterMap_eq_flatMap_toList, List.flatMap_assoc]
    exact List.flatMap_congr fun m _ => echoes_eq l m
  rw [hreply.deliveries, hechoes]
  rfl

theorem lists_act (l : Link κ) (now : Nat) (a : Action κ) : (acted now a).Lists l (l.act now a).2 := by
  cases a with
  | attach | deafen => exact .of_same rfl rfl rfl rfl (fun _ => rfl) rfl
  | moveTo s => exact .of_socketOnly (statusOnly_moveTo l s).toSocketOnly rfl (fun _ => rfl) rfl
  | markReady => exact .of_socketOnly (statusOnly_markReady l).toSocketOnly rfl (fun _ => rfl) rfl
  | start => exact .of_socketOnly (statusOnly_start l).toSocketOnly rfl (fun _ => rfl) rfl
  | stop => exact .of_socketOnly (statusOnly_stop l).toSocketOnly rfl (fun _ => rfl) rfl
  | shutdown => exact .of_socketOnly (statusOnly_shutdown l).toSocketOnly rfl (fun _ => rfl) rfl
  | notify method params =>
    exact .of_socketOnly (statusOnly_notify l method params).toSocketOnly rfl (fun _ => rfl) rfl
  | call method params =>
    exact .of_unheard (call_settles l now method params).unheard rfl (fun _ => rfl) rfl
  | batch entries => exact .of_unheard (batch_settles l now entries).unheard rfl (fun _ => rfl) rfl
  | frame text => exact lists_frame l now text
  | listen method handler => exact ⟨by simp [removes, registers?, act, listen], rfl, (List.append_nil _).symm⟩
  | unlisten id =>
    refine ⟨?_, rfl, (List.append_nil _).symm⟩
    simp [removes, registers?, act, unlisten, eq_comm]

theorem lists_onto (l : Dialing κ) (d : Doing κ) : d.Lists l.link (d.onto l).link := by
  cases d with
  | acted now a => exact lists_act l.link now a
  | network e => exact .of_socketOnly (statusOnly_hear l e).toSocketOnly rfl (fun _ => rfl) rfl
  | dropped => exact ⟨by simp [onto, drop, removes, registers?], rfl, (List.append_nil _).symm⟩
  | swept now =>
    refine .of_same ?_ ?_ ?_ rfl (fun _ => rfl) rfl
    all_goals
      show _ = _
      dsimp only [onto, sweepIfDue]
      split
      · split <;> rfl
      · rfl
  | polled now visible ticked =>
    refine .of_socketOnly (StatusOnly.toSocketOnly ?_) rfl (fun _ => rfl) rfl
    dsimp only [onto]
    rw [Dialing.link_poll]
    exact statusOnly_poll l.link visible
  | looked | forgotten | told | orphaned | ended | waited => exact .of_same rfl rfl rfl rfl (fun _ => rfl) rfl

end Doing

/-! ### A whole history -/

theorem registrations_cons (d : Doing κ) (ds : List (Doing κ)) :
    registrations (d :: ds) = d.registers?.toList.length + registrations ds := by
  unfold registrations
  cases h : d.registers? <;> simp [h, Nat.add_comm]

theorem nextListener_history (l : Dialing κ) (ds : List (Doing κ)) :
    (ds.foldl Doing.onto l).link.nextListener = l.link.nextListener + registrations ds := by
  induction ds generalizing l with
  | nil => rfl
  | cons d ds ih =>
    rw [List.foldl_cons, ih, (Doing.lists_onto l d).next, registrations_cons, Nat.add_assoc]

theorem standing_cons (n : Nat) (d : Doing κ) (ds : List (Doing κ)) :
    standing n (d :: ds) =
      (d.registers?.map fun r => (⟨n, r.1, r.2⟩ : Listener κ)).toList.filter
          (fun x => ¬ ds.any (·.removes x.id)) ++
        standing (n + d.registers?.toList.length) ds := by
  rw [standing]
  cases d.registers? with
  | none => rfl
  | some r =>
    dsimp only [Option.map_some, Option.toList_some]
    rw [List.filter_singleton]
    cases h : ds.any (·.removes n) <;> rfl

theorem listeners_history (l : Dialing κ) (ds : List (Doing κ)) :
    (ds.foldl Doing.onto l).link.listeners =
      l.link.listeners.filter (fun x => ¬ ds.any (·.removes x.id)) ++ standing l.link.nextListener ds := by
  induction ds generalizing l with
  | nil => simp [standing]
  | cons d ds ih =>
    have hstep := Doing.lists_onto l d
    rw [List.foldl_cons, ih, hstep.listeners, hstep.next, standing_cons, List.filter_append,
      List.filter_filter, List.append_assoc]
    congr 1
    refine List.filter_congr fun x _ => ?_
    simp [Bool.and_comm]

theorem invocations_append (before ds : List (Doing κ)) (d : Doing κ) :
    invocations before (ds ++ [d]) =
      invocations before ds ++ d.notifications.flatMap (invoked (before ++ ds)) := by
  induction ds generalizing before with
  | nil => simp [invocations]
  | cons e ds ih => simp [invocations, ih]

section

variable (settings : Settings) (ceiling : Nat)

def after (ds : List (Doing κ)) : Link κ := (ds.foldl Doing.onto (.new settings ceiling)).link

theorem lists_after (ds : List (Doing κ)) (d : Doing κ) :
    d.Lists (after settings ceiling ds) (after settings ceiling (ds ++ [d])) := by
  unfold after
  rw [List.foldl_concat]
  exact Doing.lists_onto _ d

theorem listeners_after (ds : List (Doing κ)) : (after settings ceiling ds).listeners = standing 0 ds :=
  listeners_history _ ds

theorem nextListener_after (ds : List (Doing κ)) :
    (after settings ceiling ds).nextListener = registrations ds :=
  (nextListener_history _ ds).trans (Nat.zero_add _)

theorem deliveries_after (ds : List (Doing κ)) :
    (after settings ceiling ds).deliveries = invocations [] ds := by
  induction ds using List.reverseRecOn with
  | nil => rfl
  | append_singleton ds d ih =>
    rw [(lists_after settings ceiling ds d).deliveries, ih, invocations_append]
    refine congrArg _ (List.flatMap_congr fun n _ => ?_)
    simp [handlersFor, listeners_after, invoked, Function.comp_def]

end

/-! ### Ids -/

theorem ids_standing (n : Nat) (ds : List (Doing κ)) :
    ((standing n ds).map (·.id)).Sublist (List.range' n (registrations ds)) := by
  induction ds generalizing n with
  | nil => simp [standing]
  | cons d ds ih =>
    rw [standing_cons, registrations_cons, List.map_append, ← List.range'_append_1]
    refine List.Sublist.append ?_ (ih _)
    refine (List.filter_sublist.map _).trans ?_
    cases d.registers? <;> exact .refl _

theorem nodup_standing (ds : List (Doing κ)) : ((standing 0 ds).map (·.id)).Nodup :=
  .sublist (ids_standing 0 ds) List.nodup_range'

theorem registers?_eq_some {d : Doing κ} {method : String} {handler : κ} :
    d.registers? = some (method, handler) ↔ ∃ now, d = .acted now (.listen method handler) := by
  unfold Doing.registers?
  split
  · simp
  · rename_i h
    simpa using fun now => h now method handler

theorem mem_standing {n : Nat} {ds : List (Doing κ)} {x : Listener κ} :
    x ∈ standing n ds ↔
      ∃ before now after, ds = before ++ .acted now (.listen x.method x.handler) :: after ∧
        n + registrations before = x.id ∧ ∀ d ∈ after, ¬ d.removes x.id := by
  induction ds generalizing n with
  | nil => simp [standing]
  | cons d ds ih =>
    rw [standing_cons, List.mem_append, ih, List.mem_filter, Option.mem_toList, Option.map_eq_some_iff]
    constructor
    · rintro (⟨⟨r, hr, rfl⟩, hstays⟩ | ⟨before, now, after, rfl, hid, hstays⟩)
      · obtain ⟨now, rfl⟩ := registers?_eq_some.1 hr
        exact ⟨[], now, ds, rfl, rfl, by simpa using hstays⟩
      · exact ⟨d :: before, now, after, rfl, by rw [registrations_cons, ← Nat.add_assoc, hid], hstays⟩
    · rintro ⟨before, now, after, hds, hid, hstays⟩
      cases before with
      | nil =>
        obtain ⟨rfl, rfl⟩ := List.cons_eq_cons.1 hds
        obtain rfl : n = x.id := hid
        exact .inl ⟨⟨_, rfl, rfl⟩, by simpa using hstays⟩
      | cons e before =>
        obtain ⟨rfl, rfl⟩ := List.cons_eq_cons.1 hds
        exact .inr ⟨before, now, after, rfl, by rw [← hid, registrations_cons, Nat.add_assoc], hstays⟩

theorem given?_eq (l : Link κ) (d : Doing κ) : d.given? l = d.registers?.map fun _ => l.nextListener := by
  cases d with
  | acted now a =>
    cases a with
    | call method params =>
      simp only [Doing.given?, Doing.registers?, act, Option.map_none]
      cases (l.call now method params).1 <;> rfl
    | notify method params =>
      simp only [Doing.given?, Doing.registers?, act, Option.map_none]
      cases (l.notify method params).1 <;> rfl
    | batch entries =>
      simp only [Doing.given?, Doing.registers?, act, Option.map_none]
      cases (l.batch now entries).1 <;> rfl
    | start =>
      simp only [Doing.given?, Doing.registers?, act, Option.map_none]
      cases l.start.1 <;> rfl
    | attach | deafen | moveTo | markReady | stop | shutdown | frame | listen | unlisten => rfl
  | network | looked | forgotten | dropped | swept | told | orphaned | polled | ended | waited => rfl

theorem given_eq (l : Dialing κ) (ds : List (Doing κ)) :
    given l ds = List.range' l.link.nextListener (registrations ds) := by
  induction ds generalizing l with
  | nil => rfl
  | cons d ds ih =>
    rw [given, ih, given?_eq, (Doing.lists_onto l d).next, registrations_cons, ← List.range'_append_1]
    cases d.registers? <;> rfl

/-- What it does to take away the handler with an id: all others keep their order. -/
inductive Unlistens (l : Link κ) (id : Nat) : Bool → Link κ → Prop
  | found {before after : List (Listener κ)} {x : Listener κ} :
      x.id = id → l.listeners = before ++ x :: after → (∀ y ∈ before ++ after, y.id ≠ id) →
      Unlistens l id true { l with listeners := before ++ after }
  | missing : (∀ x ∈ l.listeners, x.id ≠ id) → Unlistens l id false l

theorem unlistens {l : Link κ} (hids : (l.listeners.map (·.id)).Nodup) (id : Nat) :
    Unlistens l id (l.hasListener id) (l.unlisten id) := by
  by_cases h : ∃ x ∈ l.listeners, x.id = id
  · obtain ⟨x, hx, rfl⟩ := h
    obtain ⟨before, after, hl⟩ := List.append_of_mem hx
    have hothers : ∀ y ∈ before ++ after, y.id ≠ x.id := by
      have hperm : (l.listeners.map (·.id)).Perm (x.id :: (before ++ after).map (·.id)) := by
        rw [hl]
        exact List.perm_middle.map _
      intro y hy heq
      exact (List.nodup_cons.1 (hperm.nodup_iff.1 hids)).1 (heq ▸ List.mem_map_of_mem hy)
    have hkept : l.listeners.filter (·.id ≠ x.id) = before ++ after := by
      rw [hl, List.filter_append, List.filter_cons_of_neg (by simp), ← List.filter_append]
      exact List.filter_eq_self.2 fun y hy => decide_eq_true (hothers y hy)
    have hfound : l.hasListener x.id = true := List.any_eq_true.2 ⟨x, hx, decide_eq_true rfl⟩
    rw [hfound, unlisten, hkept]
    exact .found rfl hl hothers
  · have hmissing : ∀ x ∈ l.listeners, x.id ≠ id := fun x hx heq => h ⟨x, hx, heq⟩
    have hkept : l.listeners.filter (·.id ≠ id) = l.listeners :=
      List.filter_eq_self.2 fun x hx => decide_eq_true (hmissing x hx)
    have hnone : l.hasListener id = false := List.any_eq_false.2 fun x hx => by simpa using hmissing x hx
    rw [hnone, unlisten, hkept]
    exact .missing hmissing

/-! ### Handlers in rows -/

def row (l : Link κ) (method : String) : List (Nat × κ) :=
  (l.listeners.filter (·.method = method)).map fun x => (x.id, x.handler)

/-- Handlers in rows by method. -/
structure Roster (κ : Type) where
  rows : Dict (List (Nat × κ)) := .empty
  /-- The id of the next handler. -/
  next : Nat := 0

namespace Roster

def listen (r : Roster κ) (method : String) (handler : κ) : Nat × Roster κ :=
  (r.next,
    { rows := r.rows.insert method ((r.rows.find? method).getD [] ++ [(r.next, handler)])
      next := r.next + 1 })

def strike (id : Nat) (row : List (Nat × κ)) : Option (List (Nat × κ)) :=
  let kept := row.filter (·.1 ≠ id)
  if kept.isEmpty then none else some kept

/-- Strike an id from all rows, and tell whether one became shorter. -/
def unlisten (r : Roster κ) (id : Nat) : Bool × Roster κ :=
  (r.rows.values.any fun row => (row.filter (·.1 ≠ id)).length ≠ row.length,
    { r with rows := r.rows.filterMap (strike id) })

def handlersFor (r : Roster κ) (method : String) : List κ :=
  ((r.rows.find? method).getD []).map (·.2)

def onto (r : Roster κ) : Doing κ → Roster κ
  | .acted _ (.listen method handler) => (r.listen method handler).2
  | .acted _ (.unlisten id) => (r.unlisten id).2
  | .dropped => { r with rows := .empty }
  | _ => r

/-- The rows hold what a link holds, and none of them is empty. -/
structure Holds (r : Roster κ) (l : Link κ) : Prop where
  row : ∀ method, (r.rows.find? method).getD [] = l.row method
  full : ∀ method, r.rows.find? method ≠ some []
  next : r.next = l.nextListener

variable {r : Roster κ} {l l' : Link κ}

theorem Holds.handlersFor (h : r.Holds l) (method : String) :
    r.handlersFor method = l.handlersFor method := by
  rw [Roster.handlersFor, h.row, Link.row, List.map_map]
  rfl

theorem Holds.of_same (h : r.Holds l) (hlisteners : l'.listeners = l.listeners)
    (hnext : l'.nextListener = l.nextListener) : r.Holds l' where
  row method := by rw [h.row, Link.row, Link.row, hlisteners]
  full := h.full
  next := h.next.trans hnext.symm

theorem Holds.listen (h : r.Holds l) (method : String) (handler : κ) :
    (r.listen method handler).2.Holds (l.listen method handler).2 where
  row m := by
    have hrow := h.row m
    simp only [Roster.listen, Link.listen, Dict.find?_insert, Link.row, List.filter_append,
      List.map_append] at hrow ⊢
    by_cases hm : method = m
    · subst hm
      simp [hrow, h.next]
    · simp [hm, hrow]
  full m := by
    simp only [Roster.listen, Dict.find?_insert]
    split
    · simp
    · exact h.full m
  next := congrArg (· + 1) h.next

theorem strike_getD (id : Nat) (row : List (Nat × κ)) : (strike id row).getD [] = row.filter (·.1 ≠ id) := by
  unfold strike
  dsimp only
  split
  · exact (List.isEmpty_iff.1 ‹_›).symm
  · rfl

theorem strike_ne_empty (id : Nat) (row : List (Nat × κ)) : strike id row ≠ some [] := by
  unfold strike
  dsimp only
  split
  · simp
  · rename_i h
    simpa using h

theorem Holds.unlisten (h : r.Holds l) (id : Nat) : (r.unlisten id).2.Holds (l.unlisten id) where
  row method := by
    have hkept : ((r.rows.find? method).bind (strike id)).getD [] =
        ((r.rows.find? method).getD []).filter (·.1 ≠ id) := by
      cases r.rows.find? method with
      | none => rfl
      | some row => exact strike_getD id row
    rw [Roster.unlisten, Dict.find?_filterMap, hkept, h.row, Link.row, Link.row, Link.unlisten,
      List.filter_map, List.filter_filter, List.filter_filter]
    refine congrArg _ (List.filter_congr fun x _ => ?_)
    simp [Bool.and_comm]
  full method := by
    rw [Roster.unlisten, Dict.find?_filterMap]
    cases r.rows.find? method with
    | none => simp
    | some row => exact strike_ne_empty id row
  next := h.next

theorem Holds.found (h : r.Holds l) (id : Nat) : (r.unlisten id).1 = l.hasListener id := by
  rw [Bool.eq_iff_iff, Roster.unlisten, hasListener, List.any_eq_true, List.any_eq_true]
  have hshorter : ∀ row : List (Nat × κ),
      decide ((row.filter (·.1 ≠ id)).length ≠ row.length) = true ↔ ∃ e ∈ row, e.1 = id := by
    intro row
    simp [List.length_filter_eq_length_iff]
  simp only [hshorter, Dict.mem_values, decide_eq_true_eq]
  constructor
  · rintro ⟨row, ⟨method, hrow⟩, e, he, rfl⟩
    have hmem : e ∈ l.row method := by rwa [← h.row, hrow]
    obtain ⟨x, hx, rfl⟩ := List.mem_map.1 hmem
    exact ⟨x, List.mem_of_mem_filter hx, rfl⟩
  · rintro ⟨x, hx, rfl⟩
    have hmem : (x.id, x.handler) ∈ (r.rows.find? x.method).getD [] := by
      rw [h.row]
      exact List.mem_map.2 ⟨x, List.mem_filter.2 ⟨hx, decide_eq_true rfl⟩, rfl⟩
    cases hrow : r.rows.find? x.method with
    | none => simp [hrow] at hmem
    | some row => exact ⟨row, ⟨x.method, hrow⟩, _, by simpa [hrow] using hmem, rfl⟩

theorem holds_new (settings : Settings) (ceiling : Nat) : ({} : Roster κ).Holds (.new settings ceiling) :=
  ⟨fun _ => rfl, nofun, rfl⟩

theorem Holds.onto {l : Dialing κ} (h : r.Holds l.link) (d : Doing κ) : (r.onto d).Holds (d.onto l).link := by
  have hstep := Doing.lists_onto l d
  have hsame : d.registers? = none → (∀ id, d.removes id = false) → r.Holds (d.onto l).link := fun hr hk =>
    h.of_same (by simpa [hr, hk] using hstep.listeners) (by simpa [hr] using hstep.next)
  cases d with
  | acted now a =>
    cases a with
    | listen method handler => exact h.listen method handler
    | unlisten id => exact h.unlisten id
    | attach | deafen | moveTo | markReady | start | stop | shutdown | call | notify | batch | frame =>
      exact hsame rfl fun _ => rfl
  | dropped => exact ⟨fun _ => rfl, nofun, h.next⟩
  | network | looked | forgotten | swept | told | orphaned | polled | ended | waited => exact hsame rfl fun _ => rfl

theorem holds_after (settings : Settings) (ceiling : Nat) (ds : List (Doing κ)) :
    (ds.foldl Roster.onto {}).Holds (after settings ceiling ds) := by
  unfold after
  induction ds using List.reverseRecOn with
  | nil => exact holds_new settings ceiling
  | append_singleton ds d ih =>
    rw [List.foldl_concat, List.foldl_concat]
    exact ih.onto d

end Roster

/-! ### Exact dispatch -/

/-- How a link with a history keeps its handlers and tells them of notifications. -/
structure Dispatches (ds : List (Doing κ)) (l : Link κ) : Prop where
  /-- The handlers that are held are those registered and not removed since, in the order of registration. -/
  listeners : l.listeners = standing 0 ds
  stands : ∀ x, x ∈ l.listeners ↔ Stands ds x
  /-- Each notification invoked just the handlers that stood for its method when it came, each once, in their
  order and with the notification as it is. -/
  deliveries : l.deliveries = invocations [] ds
  /-- One who registers gets the number of registrations so far. -/
  listen : ∀ now method handler, (l.act now (.listen method handler)).1 = .listener (registrations ds)
  /-- One who removes is told whether the id is one that was given and has not been removed since; just that
  handler goes. -/
  unlisten : ∀ now id, ∃ found, (l.act now (.unlisten id)).1 = .flag found ∧
    (found ↔ ∃ x, Stands ds x ∧ x.id = id) ∧ Unlistens l id found (l.act now (.unlisten id)).2
  /-- Kept in rows by method, the handlers are the same and no row is empty; removing tells the same. -/
  roster : let r : Roster κ := ds.foldl Roster.onto {}
    r.Holds l ∧ (∀ method, r.handlersFor method = l.handlersFor method) ∧
      ∀ id, (r.unlisten id).1 = l.hasListener id

theorem dispatches_after (settings : Settings) (ceiling : Nat) (ds : List (Doing κ)) :
    Dispatches ds (after settings ceiling ds) := by
  have hlisteners := listeners_after settings ceiling ds
  have hids : ((after settings ceiling ds).listeners.map (·.id)).Nodup := hlisteners ▸ nodup_standing ds
  have hstands : ∀ x, x ∈ (after settings ceiling ds).listeners ↔ Stands ds x := by
    intro x
    rw [hlisteners, mem_standing]
    simp [Stands]
  have hroster := Roster.holds_after settings ceiling ds
  refine ⟨hlisteners, hstands, deliveries_after settings ceiling ds, fun now method handler => ?_,
    fun now id => ⟨_, rfl, ?_, unlistens hids id⟩, hroster, hroster.handlersFor, hroster.found⟩
  · exact congrArg Reply.listener (nextListener_after settings ceiling ds)
  · simp [hasListener, hstands]

/-- Whatever happens to a link, a notification goes to just the handlers that were registered for its method and
not removed since; no id is given twice. -/
theorem notifications_reach_standing (settings : Settings) (ceiling : Nat) :
    (∀ ds : List (Doing κ),
      Dispatches ds (after settings ceiling ds) ∧ (given (.new settings ceiling) ds).Nodup) ∧
    ∀ now (cs : List (Session.Cue κ)), let s := Session.start settings ceiling now
      (s.cues cs).link = after settings ceiling (s.doings cs) := by
  refine ⟨fun ds => ⟨dispatches_after settings ceiling ds, ?_⟩, fun now cs =>
    congrArg Dialing.link (Session.onto_doings _ cs)⟩
  rw [given_eq]
  exact List.nodup_range'

end Link
end ServiceLink
