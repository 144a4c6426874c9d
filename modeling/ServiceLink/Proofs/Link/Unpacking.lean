import Mathlib.Data.List.Induction
import ServiceLink.Link.Basic
import ServiceLink.Proofs.Json.Rendering

/-! An array of messages is taken in like its objects, each as a frame of its own, one after the other. Only
the replies differ: those to the elements of an array form one frame. -/

namespace ServiceLink.Link

open Json (arrayText)

variable {κ : Type}

/-! ### Elements -/

def isObject (text : String) : Bool := ((Json.parse? text).bind Json.members?).isSome

def element (text : String) : Json := (Json.parse? text).getD .null

def message (text : String) : Rpc.Message := .classify (element text)

/-- The reply that an element is owed. One that is no object gets the reply to an invalid request, whose
id is not known. -/
def elementReply? (text : String) : Option String :=
  if isObject text then (Rpc.Frame.read text).reply?
  else some (Rpc.ErrorReply.toJson { error := .invalidRequest, id := .null }).render

theorem read_of_isObject {text : String} (h : isObject text) :
    Rpc.Frame.read text = .single (message text) := by
  obtain ⟨members, hmembers⟩ := Option.isSome_iff_exists.1 h
  obtain ⟨j, hparse, hj⟩ := Option.bind_eq_some_iff.1 hmembers
  cases j with
  | object members => simp [Rpc.Frame.read, message, element, hparse]
  | null | bool | number | text | array => cases hj

theorem message_of_not_isObject {text : String} (h : ¬ isObject text) : message text = .invalid .null := by
  have hnone : (Json.parse? text).bind Json.members? = none := by simpa [isObject] using h
  have hmembers : (element text).members?.isNone := by
    unfold element
    cases hparse : Json.parse? text with
    | none => rfl
    | some j => simpa [hparse] using hnone
  simp [message, Rpc.Message.classify, hmembers]

theorem elementReply?_eq (text : String) :
    elementReply? text = (message text).reply?.map fun r => r.toJson.render := by
  unfold elementReply?
  split
  · rename_i hobject
    rw [read_of_isObject hobject]
    rfl
  · rename_i hother
    rw [message_of_not_isObject hother]
    rfl

/-! ### Replies -/

/-- The queue of the socket once these texts were handed to it. -/
def queued (l : Link κ) (texts : List String) : List OutboundFrame :=
  if l.writer = .live then l.outbound ++ texts.map .text else l.outbound

def queue (l : Link κ) (texts : List String) : Link κ := { l with outbound := l.queued texts }

theorem queue_nil (l : Link κ) : l.queue [] = l := by simp [queue, queued]

theorem queue_append (l : Link κ) (texts more : List String) :
    l.queue (texts ++ more) = (l.queue texts).queue more := by
  simp only [queue, queued]
  split <;> simp

theorem receive_queue (l : Link κ) (texts : List String) (m : Rpc.Message) :
    (l.queue texts).receive m = (l.receive m).queue texts := by
  cases m with
  | response id result => cases id <;> rfl
  | error id object => cases id <;> rfl
  | notification n => rfl
  | call id method => rfl
  | invalid id => rfl
  | unknown => rfl

theorem queued_receive (l : Link κ) (texts : List String) (m : Rpc.Message) :
    (l.receive m).queued texts = l.queued texts := by
  unfold receive
  split <;> rfl

theorem queued_foldl_receive (l : Link κ) (texts : List String) (messages : List Rpc.Message) :
    (messages.foldl receive l).queued texts = l.queued texts := by
  induction messages generalizing l with
  | nil => rfl
  | cons m messages ih => exact (ih _).trans (queued_receive l texts m)

theorem handleFrame_eq (l : Link κ) (text : String) :
    l.handleFrame text =
      ((Rpc.Frame.read text).messages.foldl receive l).queue (Rpc.Frame.read text).reply?.toList := by
  unfold handleFrame
  dsimp only
  cases (Rpc.Frame.read text).reply? with
  | none => exact (queue_nil _).symm
  | some reply =>
    simp only [send?, queue, queued, Option.toList_some, List.map_singleton]
    split <;> rfl

/-! ### The array and its objects -/

theorem handleFrame_object (l : Link κ) {text : String} (h : isObject text) :
    l.handleFrame text = (l.receive (message text)).queue (elementReply? text).toList := by
  rw [handleFrame_eq, elementReply?, if_pos h, read_of_isObject h]
  rfl

theorem foldl_handleFrame (l : Link κ) {texts : List String} (h : ∀ t ∈ texts, isObject t) :
    texts.foldl handleFrame l =
      ((texts.map message).foldl receive l).queue (texts.filterMap elementReply?) := by
  induction texts using List.reverseRecOn with
  | nil => exact (queue_nil l).symm
  | append_singleton texts t ih =>
    rw [List.foldl_append, ih fun x hx => h x (List.mem_append_left _ hx), List.foldl_cons, List.foldl_nil,
      handleFrame_object _ (h t (by simp)), receive_queue, ← queue_append, List.map_append, List.foldl_append,
      List.filterMap_append]
    congr 2

theorem foldl_message (l : Link κ) (texts : List String) :
    (texts.map message).foldl receive l = ((texts.filter isObject).map message).foldl receive l := by
  induction texts generalizing l with
  | nil => rfl
  | cons t texts ih =>
    by_cases hobject : isObject t
    · rw [List.filter_cons_of_pos hobject, List.map_cons, List.map_cons, List.foldl_cons, List.foldl_cons, ih]
    · rw [List.filter_cons_of_neg hobject, List.map_cons, List.foldl_cons, message_of_not_isObject hobject]
      exact ih l

theorem read_arrayText {texts : List String} (helements : ∀ t ∈ texts, (Json.parse? t).isSome)
    (hread : (Json.parse? (arrayText texts)).isSome) :
    Rpc.Frame.read (arrayText texts) = .batch (texts.map message) := by
  have helement : ∀ t ∈ texts, Json.parse? (id t) = some (element t) := by
    intro t ht
    obtain ⟨j, hj⟩ := Option.isSome_iff_exists.1 (helements t ht)
    simp [element, hj]
  have hparse := Json.parse?_arrayText helement (by rwa [List.map_id])
  rw [List.map_id] at hparse
  simp only [Rpc.Frame.read, hparse, List.map_map]
  rfl

theorem reply?_batch (texts : List String) :
    (Rpc.Frame.batch (texts.map message)).reply?.toList =
      if texts.filterMap elementReply? = [] then [] else [arrayText (texts.filterMap elementReply?)] := by
  have hreplies : texts.filterMap elementReply? =
      (((texts.map message).filterMap Rpc.Message.reply?).map Rpc.ErrorReply.toJson).map Json.render := by
    simp only [List.filterMap_map, List.map_filterMap]
    refine List.filterMap_congr fun t _ => ?_
    rw [elementReply?_eq, Option.map_map]
    rfl
  simp only [Rpc.Frame.reply?, Json.render_array, ← hreplies, List.isEmpty_iff]
  have hempty : (texts.map message).filterMap Rpc.Message.reply? = [] ↔ texts.filterMap elementReply? = [] := by
    rw [hreplies, List.map_eq_nil_iff, List.map_eq_nil_iff]
  simp only [hempty]
  split <;> rfl

/-- An array frame and its objects as single frames: the link is the same but for what was queued. The array
is answered with at most one frame, that holds the replies owed to its elements in order. -/
theorem handleFrame_array (l : Link κ) {texts : List String}
    (helements : ∀ t ∈ texts, (Json.parse? t).isSome) (hread : (Json.parse? (arrayText texts)).isSome) :
    let objects := texts.filter isObject
    let replies := texts.filterMap elementReply?
    l.handleFrame (arrayText texts) =
        { objects.foldl handleFrame l with
          outbound := l.queued (if replies = [] then [] else [arrayText replies]) } ∧
      (objects.foldl handleFrame l).outbound = l.queued (objects.filterMap elementReply?) ∧
      ∀ t ∈ objects, (elementReply? t).isSome ↔
        (∃ id method, Rpc.Frame.read t = .single (.call id method)) ∨
          ∃ id, Rpc.Frame.read t = .single (.invalid id) := by
  intro objects replies
  have hobjects : ∀ t ∈ objects, isObject t := fun t ht => List.of_mem_filter ht
  have heach := foldl_handleFrame l hobjects
  have harray := handleFrame_eq l (arrayText texts)
  rw [read_arrayText helements hread, reply?_batch] at harray
  refine ⟨?_, ?_, fun t ht => ?_⟩
  · rw [harray, heach]
    show ((texts.map message).foldl receive l).queue _ = _
    rw [foldl_message, queue, queued_foldl_receive]
    rfl
  · rw [heach]
    exact queued_foldl_receive l _ _
  · have hread := read_of_isObject (hobjects t ht)
    rw [elementReply?_eq, hread]
    cases message t <;> simp [Rpc.Message.reply?]

theorem handleFrame_array_mixed :
    let l : Link Nat := ((new {} 5).attach.call 0 "m" none).2
    let answer : Json := .object [("id", .integer 1), ("jsonrpc", .text "2.0"), ("result", .null)]
    let call : Json := .object [("id", .null), ("jsonrpc", .text "2.0"), ("method", .text "m")]
    let texts := [answer, .integer 7, call].map Json.render
    let replies := [(Rpc.ErrorReply.toJson { error := .invalidRequest, id := .null }).render,
      (Rpc.ErrorReply.toJson { error := .methodNotFound, id := .null }).render]
    (∀ t ∈ texts, (Json.parse? t).isSome) ∧ (Json.parse? (arrayText texts)).isSome ∧
      l.handleFrame (arrayText texts) =
        { (l.handleFrame answer.render).handleFrame call.render with
          outbound := l.queued [arrayText replies] } := by
  intro l answer call texts replies
  have hanswer (n : Nat) : Json.Reads (n + 1) answer answer := by
    have hid : Json.Reads n (.integer 1) (.integer 1) := .integer (by decide)
    exact .object (by simpa [Json.Reads.text, Json.Reads.null] using hid)
  have hcall (n : Nat) : Json.Reads (n + 1) call call := .object (by simp [Json.Reads.text, Json.Reads.null])
  have hseven (n : Nat) : Json.Reads n (.integer 7) (.integer 7) := .integer (by decide)
  have hreads (n : Nat) : ∀ j ∈ [answer, .integer 7, call], Json.Reads (n + 1) j j := by
    simpa [hanswer n, hcall n] using hseven (n + 1)
  have helements : ∀ t ∈ texts, (Json.parse? t).isSome := by
    intro t ht
    obtain ⟨j, hj, rfl⟩ := List.mem_map.1 ht
    simp [(hreads 126 j hj).parse?_eq]
  have hread : (Json.parse? (arrayText texts)).isSome := by
    have harray : Json.Reads 127 (.array ([answer, .integer 7, call].map id)) _ := .array (hreads 125)
    rw [List.map_id] at harray
    rw [← Json.render_array, harray.parse?_eq]
    rfl
  have hobjects : texts.filter isObject = [answer.render, call.render] := by
    simp [texts, List.filter_cons, isObject, (hanswer 126).parse?_eq, (hcall 126).parse?_eq,
      (hseven 127).parse?_eq]
    rfl
  have hreplies : texts.filterMap elementReply? = replies := by
    simp only [texts, List.map_cons, List.map_nil, List.filterMap_cons, List.filterMap_nil, elementReply?_eq,
      message, element, (hanswer 126).parse?_eq, (hcall 126).parse?_eq, (hseven 127).parse?_eq]
    rfl
  refine ⟨helements, hread, ?_⟩
  have harray := (handleFrame_array l helements hread).1
  rw [hobjects, hreplies] at harray
  exact harray

end ServiceLink.Link
