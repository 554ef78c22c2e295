import Mathlib.Data.List.AList

/-!
# Requests and responses over a pair of pipes

A client writes requests into one pipe and keeps each under its id in a table until the response to
it comes; of the table only `Table.Lawful` is known. A server reads the requests in order, answers
each with its id, and writes notifications of its own between the responses. `Channel` is both ends
with what is in the two pipes; `Kept` is the account of it, for ids that are not used twice: nothing
is lost, doubled or overtaken in either direction, and the table holds exactly the requests that
have no response yet, so that every response finds its own request (`Kept.response`).
-/

namespace Rpc

variable {ι κ ν : Type*}

/-! ## Tables -/

/-- A table of requests by their ids: `pop` takes one out, if there is one. -/
structure Table (ι κ : Type*) where
  Carrier : Type
  empty : Carrier
  push : Carrier → ι → κ → Carrier
  pop : Carrier → ι → Option (κ × Carrier)

/-- The request with the id. -/
def Table.find (table : Table ι κ) (t : table.Carrier) (id : ι) : Option κ :=
  (table.pop t id).map Prod.fst

/-- The table without the id. -/
def Table.drop (table : Table ι κ) (t : table.Carrier) (id : ι) : table.Carrier :=
  ((table.pop t id).map Prod.snd).getD t

/-- What a table does with a request of a new id, and with the one it gives out. -/
structure Table.Lawful (table : Table ι κ) : Prop where
  find_empty : ∀ id, table.find table.empty id = none
  find_push : ∀ t id r, table.find t id = none → table.find (table.push t id r) id = some r
  find_push_ne : ∀ t id r id', id' ≠ id → table.find (table.push t id r) id' = table.find t id'
  find_drop : ∀ t id, table.find (table.drop t id) id = none
  find_drop_ne : ∀ t id id', id' ≠ id → table.find (table.drop t id) id' = table.find t id'

/-- What the server writes. -/
inductive Message (ι ν : Type*)
  | response (id : ι)
  | notification (n : ν)

/-- The ids of the responses among the messages. -/
def responses (messages : List (Message ι ν)) : List ι :=
  messages.filterMap fun
    | .response id => some id
    | .notification _ => none

/-- The notifications among the messages. -/
def notifications (messages : List (Message ι ν)) : List ν :=
  messages.filterMap fun
    | .response _ => none
    | .notification n => some n

theorem responses_append (messages messages' : List (Message ι ν)) :
    responses (messages ++ messages') = responses messages ++ responses messages' :=
  List.filterMap_append

theorem notifications_append (messages messages' : List (Message ι ν)) :
    notifications (messages ++ messages') = notifications messages ++ notifications messages' :=
  List.filterMap_append

/-- The table of the client and the two pipes, with what has gone through them: the requests that
were sent and those that were served, each response that was read with the request it found, and the
notifications that were written and those that were read. -/
structure Channel (table : Table ι κ) (ν : Type*) where
  waiting : table.Carrier
  requests : List (ι × κ)
  messages : List (Message ι ν)
  sent : List (ι × κ)
  served : List (ι × κ)
  matched : List (ι × Option κ)
  written : List ν
  read : List ν

variable {table : Table ι κ}

/-- Nothing was sent yet. -/
def Channel.empty : Channel table ν := ⟨table.empty, [], [], [], [], [], [], []⟩

/-- The client sends a request. -/
def Channel.send (c : Channel table ν) (id : ι) (request : κ) : Channel table ν :=
  { c with
    waiting := table.push c.waiting id request
    requests := c.requests ++ [(id, request)]
    sent := c.sent ++ [(id, request)] }

/-- The client sends requests one after the other. -/
def Channel.sendAll (c : Channel table ν) (requests : List (ι × κ)) : Channel table ν :=
  requests.foldl (fun c r => c.send r.1 r.2) c

/-- The server reads the next request and writes the response to it. -/
def Channel.serve (c : Channel table ν) : Option (κ × Channel table ν) :=
  match c.requests with
  | [] => none
  | (id, request) :: requests =>
    some (request, { c with
      requests := requests
      messages := c.messages ++ [.response id]
      served := c.served ++ [(id, request)] })

/-- The server writes a notification. -/
def Channel.notify (c : Channel table ν) (n : ν) : Channel table ν :=
  { c with messages := c.messages ++ [.notification n], written := c.written ++ [n] }

/-- What the client finds in the pipe: a response with the request of its table, or a
notification. -/
inductive Found (κ ν : Type*)
  | response (request : Option κ)
  | notification (n : ν)

/-- The client reads the next message; a response takes its request from the table. -/
def Channel.receive (c : Channel table ν) : Option (Found κ ν × Channel table ν) :=
  match c.messages with
  | [] => none
  | .response id :: messages =>
    some (.response (table.find c.waiting id), { c with
      waiting := table.drop c.waiting id
      messages := messages
      matched := c.matched ++ [(id, table.find c.waiting id)] })
  | .notification n :: messages =>
    some (.notification n, { c with messages := messages, read := c.read ++ [n] })

/-! ## The account -/

/-- `back` are the requests whose responses were read, `flying` those whose responses are in the
pipe. -/
structure Kept (c : Channel table ν) (back flying : List (ι × κ)) : Prop where
  ids : (c.sent.map Prod.fst).Nodup
  sent : c.sent = c.served ++ c.requests
  served : c.served = back ++ flying
  matched : c.matched = back.map fun r => (r.1, some r.2)
  responses : responses c.messages = flying.map Prod.fst
  waiting : ∀ id request, table.find c.waiting id = some request ↔
    (id, request) ∈ flying ++ c.requests
  written : c.written = c.read ++ notifications c.messages

variable {c : Channel table ν} {back flying : List (ι × κ)}

theorem Kept.empty (ht : table.Lawful) : Kept (Channel.empty : Channel table ν) [] [] :=
  ⟨List.nodup_nil, rfl, rfl, rfl, rfl, by simp [Channel.empty, ht.find_empty], rfl⟩

/-- The unanswered requests have been sent. -/
theorem Kept.mem_sent (h : Kept c back flying) {r : ι × κ} (hr : r ∈ flying ++ c.requests) :
    r ∈ c.sent := by
  rw [h.sent, h.served, List.append_assoc]
  exact List.mem_append_right _ hr

/-- An id that was not sent is not in the table. -/
theorem Kept.find_eq_none (h : Kept c back flying) {id : ι} (hnew : id ∉ c.sent.map Prod.fst) :
    table.find c.waiting id = none := by
  refine Option.eq_none_iff_forall_ne_some.2 fun request hfind => hnew ?_
  exact List.mem_map_of_mem (h.mem_sent ((h.waiting id request).1 hfind))

theorem Kept.send (ht : table.Lawful) (h : Kept c back flying) {id : ι} {request : κ}
    (hnew : id ∉ c.sent.map Prod.fst) : Kept (c.send id request) back flying := by
  refine { h with ids := ?_, sent := ?_, waiting := fun id' request' => ?_ }
  · rw [Channel.send, List.map_append, List.nodup_append]
    refine ⟨h.ids, List.nodup_singleton _, fun x hx y hy heq => hnew ?_⟩
    rw [List.map_singleton, List.mem_singleton] at hy
    rwa [heq, hy] at hx
  · rw [Channel.send, h.sent, List.append_assoc]
  · rw [Channel.send, ← List.append_assoc, List.mem_append, ← h.waiting, List.mem_singleton,
      Prod.mk.injEq]
    by_cases hid : id' = id
    · subst hid
      have hnone := h.find_eq_none hnew
      rw [ht.find_push _ _ _ hnone, hnone]
      simp [eq_comm]
    · rw [ht.find_push_ne _ _ _ _ hid]
      simp [hid]

theorem Kept.sendAll (ht : table.Lawful) (h : Kept c back flying) {requests : List (ι × κ)}
    (hnodup : (requests.map Prod.fst).Nodup)
    (hnew : ∀ r ∈ requests, r.1 ∉ c.sent.map Prod.fst) : Kept (c.sendAll requests) back flying := by
  induction requests generalizing c with
  | nil => exact h
  | cons r requests ih =>
    rw [List.map_cons, List.nodup_cons] at hnodup
    refine ih (h.send ht (hnew r (List.mem_cons_self ..))) hnodup.2 fun r' hr' hmem => ?_
    replace hmem : r'.1 ∈ (c.sent ++ [r]).map Prod.fst := hmem
    rw [List.map_append, List.mem_append] at hmem
    rcases hmem with hmem | hmem
    · exact hnew r' (List.mem_cons_of_mem _ hr') hmem
    · rw [List.map_singleton, List.mem_singleton] at hmem
      exact hnodup.1 (hmem ▸ List.mem_map_of_mem hr')

theorem sent_sendAll (c : Channel table ν) (requests : List (ι × κ)) :
    (c.sendAll requests).sent = c.sent ++ requests := by
  induction requests generalizing c with
  | nil => exact (List.append_nil _).symm
  | cons r requests ih =>
    show ((c.send r.1 r.2).sendAll requests).sent = _
    have hsend : (c.send r.1 r.2).sent = c.sent ++ [r] := rfl
    rw [ih, hsend, List.append_assoc, List.singleton_append]

/-- Sending touches neither what was served nor the notifications. -/
theorem sendAll_frame (c : Channel table ν) (requests : List (ι × κ)) :
    (c.sendAll requests).served = c.served ∧ (c.sendAll requests).written = c.written ∧
      (c.sendAll requests).messages = c.messages := by
  induction requests generalizing c with
  | nil => exact ⟨rfl, rfl, rfl⟩
  | cons r requests ih => exact ih (c.send r.1 r.2)

/-- A response is neither a request nor a notification. -/
theorem serve_frame {request : κ} {c' : Channel table ν} (hserve : c.serve = some (request, c')) :
    c'.sent = c.sent ∧ c'.written = c.written := by
  unfold Channel.serve at hserve
  split at hserve
  · cases hserve
  · cases hserve
    exact ⟨rfl, rfl⟩

/-- What the client can find in the pipe. -/
theorem receive_cases {found : Found κ ν} {c' : Channel table ν}
    (hreceive : c.receive = some (found, c')) :
    (∃ id messages, c.messages = .response id :: messages ∧
      found = .response (table.find c.waiting id) ∧
      c' = { c with waiting := table.drop c.waiting id, messages,
                    matched := c.matched ++ [(id, table.find c.waiting id)] }) ∨
    (∃ n messages, c.messages = .notification n :: messages ∧ found = .notification n ∧
      c' = { c with messages, read := c.read ++ [n] }) := by
  unfold Channel.receive at hreceive
  split at hreceive
  · cases hreceive
  · rename_i id messages hmessages
    cases hreceive
    exact .inl ⟨id, messages, hmessages, rfl, rfl⟩
  · rename_i n messages hmessages
    cases hreceive
    exact .inr ⟨n, messages, hmessages, rfl, rfl⟩

/-- Reading touches neither what was sent and served nor the notifications. -/
theorem receive_frame {found : Found κ ν} {c' : Channel table ν}
    (hreceive : c.receive = some (found, c')) :
    c'.sent = c.sent ∧ c'.served = c.served ∧ c'.written = c.written := by
  obtain ⟨id, messages, -, -, rfl⟩ | ⟨n, messages, -, -, rfl⟩ := receive_cases hreceive
  · exact ⟨rfl, rfl, rfl⟩
  · exact ⟨rfl, rfl, rfl⟩

theorem Kept.serve (h : Kept c back flying) {request : κ} {c' : Channel table ν}
    (hserve : c.serve = some (request, c')) :
    ∃ id, c'.served = c.served ++ [(id, request)] ∧ Kept c' back (flying ++ [(id, request)]) := by
  unfold Channel.serve at hserve
  split at hserve
  · cases hserve
  · rename_i id request' requests hrequests
    cases hserve
    refine ⟨id, rfl,
      { h with sent := ?_, served := ?_, responses := ?_, waiting := ?_, written := ?_ }⟩
    · rw [h.sent, hrequests, List.append_assoc]
      rfl
    · rw [h.served, List.append_assoc]
    · rw [responses_append, h.responses, List.map_append]
      rfl
    · rw [List.append_assoc, List.singleton_append, ← hrequests]
      exact h.waiting
    · rw [notifications_append, h.written]
      simp [notifications]

theorem Kept.notify (h : Kept c back flying) (n : ν) : Kept (c.notify n) back flying := by
  refine { h with responses := ?_, written := ?_ }
  · rw [Channel.notify, responses_append, h.responses]
    simp [Rpc.responses]
  · rw [Channel.notify, h.written, notifications_append, List.append_assoc]
    rfl

/-- **The response finds its request**: the next response is to the first of the requests whose
responses are in the pipe, and the table has it. -/
theorem Kept.response (h : Kept c back flying) {id : ι} {messages : List (Message ι ν)}
    (hmessages : c.messages = .response id :: messages) :
    ∃ request rest, flying = (id, request) :: rest ∧ table.find c.waiting id = some request := by
  have hresponses := h.responses
  rw [hmessages] at hresponses
  cases flying with
  | nil => cases hresponses
  | cons r rest =>
    obtain ⟨id', request⟩ := r
    obtain rfl : id = id' := (List.cons.inj hresponses).1
    exact ⟨request, rest, rfl, (h.waiting id request).2 (List.mem_cons_self ..)⟩

theorem Kept.receive (ht : table.Lawful) (h : Kept c back flying) {found : Found κ ν}
    {c' : Channel table ν}
    (hreceive : c.receive = some (found, c')) : ∃ back' flying', Kept c' back' flying' := by
  obtain ⟨id, messages, hmessages, -, rfl⟩ | ⟨n, messages, hmessages, -, rfl⟩ :=
    receive_cases hreceive
  · obtain ⟨request, rest, rfl, hfind⟩ := h.response hmessages
    refine ⟨back ++ [(id, request)], rest, { h with
      served := ?_, matched := ?_, responses := ?_, waiting := fun id' request' => ?_,
      written := ?_ }⟩
    · rw [h.served, List.append_assoc]
      rfl
    · rw [h.matched, hfind, List.map_append]
      rfl
    · have hresponses := h.responses
      rw [hmessages] at hresponses
      exact (List.cons.inj hresponses).2
    · -- the id of the response is not that of another unanswered request
      have hids : (((id, request) :: rest ++ c.requests).map Prod.fst).Nodup := by
        have hall := h.ids
        rw [h.sent, h.served, List.append_assoc, List.map_append] at hall
        exact (List.nodup_append.1 hall).2.1
      rw [List.cons_append, List.map_cons, List.nodup_cons] at hids
      by_cases hid : id' = id
      · subst hid
        rw [ht.find_drop]
        refine ⟨nofun, fun hmem => absurd (List.mem_map_of_mem (f := Prod.fst) hmem) hids.1⟩
      · rw [ht.find_drop_ne _ _ _ hid, h.waiting, List.cons_append, List.mem_cons]
        simp [hid]
    · rw [h.written, hmessages]
      rfl
  · refine ⟨back, flying, { h with responses := ?_, written := ?_ }⟩
    · rw [← h.responses, hmessages]
      rfl
    · rw [h.written, hmessages, List.append_assoc]
      rfl

end Rpc
