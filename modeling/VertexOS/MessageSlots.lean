import VertexOS.CheckedSlices
import VertexOS.CompactArrays
import VertexOS.MessageTransport

/-!
# The slots of a message queue

A queue is an array of slots with a count, and a list of messages tells what it does.
-/

namespace VertexOS.MessageSlots

open ByteStrings ByteImages CheckedSlices CompactArrays

/-- A message as a slot holds it: `len` of the bytes of a buffer of fixed size. -/
structure IpcSlot where
  sender : ProcessId
  len : Nat
  bytes : Image

namespace IpcSlot

def empty : IpcSlot := ⟨.empty, 0, fun _ => 0⟩

def u64LeAt (slot : IpcSlot) (offset : Nat) : Option Nat :=
  if slot.len < offset + 8 then none else some (readLe 8 slot.bytes offset)

def message (slot : IpcSlot) : IpcMessage := ⟨slot.sender, readBytes slot.bytes 0 slot.len⟩

end IpcSlot

abbrev SlotQueue := Compact IpcSlot

namespace SlotQueue

variable (queue : SlotQueue)

def empty : SlotQueue := ⟨fun _ => .empty, 0⟩

/-- Copying more bytes than a slot has stops the machine. -/
def enqueue (sender : ProcessId) (bytes : Image) (len : Nat) : Checked IpcError SlotQueue :=
  if queue.len = messageQueueCapacity then .error (.error .messageTooLarge)
  else if maxMessageBytes < len then .error .outOfBounds
  else .ok (queue.push ⟨sender, len, writeBytes (fun _ => 0) 0 (readBytes bytes 0 len)⟩)

def dequeueFor (receiver : ProcessId) : Option (IpcSlot × SlotQueue) :=
  queue.takeFirst .empty fun slot => slot.sender ≠ receiver

def dequeueTransactionReplyFor (receiver : ProcessId) (transactionId : Nat) :
    Option (IpcSlot × SlotQueue) :=
  queue.takeFirst .empty fun slot => slot.sender ≠ receiver ∧ slot.u64LeAt 0 = some transactionId

def removeTransactionFromSender (sender : ProcessId) (transactionId : Nat) : Bool × SlotQueue :=
  match queue.takeFirst .empty fun slot =>
    slot.sender = sender ∧ slot.u64LeAt 0 = some transactionId with
  | some (_, rest) => (true, rest)
  | none => (false, queue)

def removeAllFromSender (sender : ProcessId) : Nat × SlotQueue :=
  queue.removeAll .empty fun slot => slot.sender = sender

def dequeueFifo : Option (IpcSlot × SlotQueue) :=
  if queue.len = 0 then none else some (queue.items 0, queue.removeAt .empty 0)

end SlotQueue

open SlotQueue

inductive QueueOperation where
  | enqueue (sender : ProcessId) (bytes : Image) (len : Nat)
  | dequeueFifo
  | dequeueFor (receiver : ProcessId)
  | dequeueTransactionReplyFor (receiver : ProcessId) (transactionId : Nat)
  | removeTransactionFromSender (sender : ProcessId) (transactionId : Nat)
  | removeAllFromSender (sender : ProcessId)

/-- What an operation answers.  `stopped` is an access outside of an array. -/
inductive QueueAnswer where
  | accepted
  | refused (error : IpcError)
  | stopped
  | message (message : Option IpcMessage)
  | removed (count : Nat)
deriving DecidableEq

def SlotQueue.taken (queue : SlotQueue) :
    Option (IpcSlot × SlotQueue) → QueueAnswer × SlotQueue
  | some (slot, rest) => (.message (some slot.message), rest)
  | none => (.message none, queue)

def SlotQueue.perform (queue : SlotQueue) : QueueOperation → QueueAnswer × SlotQueue
  | .enqueue sender bytes len =>
    match queue.enqueue sender bytes len with
    | .ok after => (.accepted, after)
    | .error (.error error) => (.refused error, queue)
    | .error _ => (.stopped, queue)
  | .dequeueFifo => queue.taken queue.dequeueFifo
  | .dequeueFor receiver => queue.taken (queue.dequeueFor receiver)
  | .dequeueTransactionReplyFor receiver transactionId =>
    queue.taken (queue.dequeueTransactionReplyFor receiver transactionId)
  | .removeTransactionFromSender sender transactionId =>
    let (found, after) := queue.removeTransactionFromSender sender transactionId
    (.removed found.toNat, after)
  | .removeAllFromSender sender =>
    let (count, after) := queue.removeAllFromSender sender
    (.removed count, after)

def ofTransaction (sender : ProcessId) (transactionId : Nat) (message : IpcMessage) : Bool :=
  message.sender = sender ∧ message.u64LeAt 0 = some transactionId

def performOnList (messages : List IpcMessage) : QueueOperation → QueueAnswer × List IpcMessage
  | .enqueue sender bytes len =>
    if messages.length = messageQueueCapacity then (.refused .messageTooLarge, messages)
    else if maxMessageBytes < len then (.stopped, messages)
    else (.accepted, messages ++ [⟨sender, readBytes bytes 0 len⟩])
  | .dequeueFifo => (.message messages.head?, messages.tail)
  | .dequeueFor receiver =>
    (.message (messages.find? (MessageQueue.fromOther receiver)),
      messages.eraseP (MessageQueue.fromOther receiver))
  | .dequeueTransactionReplyFor receiver transactionId =>
    (.message (messages.find? (MessageQueue.repliesTo receiver transactionId)),
      messages.eraseP (MessageQueue.repliesTo receiver transactionId))
  | .removeTransactionFromSender sender transactionId =>
    (.removed (messages.any (ofTransaction sender transactionId)).toNat,
      messages.eraseP (ofTransaction sender transactionId))
  | .removeAllFromSender sender =>
    (.removed (messages.countP fun message => message.sender = sender),
      messages.filter fun message => message.sender ≠ sender)

/-- Perform operations one after the other, from the first answer to the last. -/
def answersAlong {σ : Type} (perform : σ → QueueOperation → QueueAnswer × σ) (start : σ) :
    List QueueOperation → List QueueAnswer × σ
  | [] => ([], start)
  | operation :: rest =>
    let (answer, next) := perform start operation
    let (answers, last) := answersAlong perform next rest
    (answer :: answers, last)

def SlotQueue.content (queue : SlotQueue) : List IpcMessage := queue.toList.map IpcSlot.message

section

variable (queue : SlotQueue)

theorem u64LeAt_message (slot : IpcSlot) (offset : Nat) :
    slot.message.u64LeAt offset = slot.u64LeAt offset := by
  unfold IpcMessage.u64LeAt IpcSlot.u64LeAt readLe? IpcSlot.message
  rw [readBytes_length]
  by_cases short : slot.len < offset + 8
  · rw [if_pos short, if_neg (by omega)]
  · rw [if_neg short, if_pos (by omega)]
    have field : ((readBytes slot.bytes 0 slot.len).drop offset).take 8 =
        readBytes slot.bytes offset 8 := by
      refine List.ext_getElem? fun index => ?_
      by_cases inside : index < 8
      · simp [readBytes, inside, show offset + index < slot.len by omega]
      · simp [readBytes, inside]
    rw [field, readLe]

theorem length_content : queue.content.length = queue.len := by
  simp [content]

theorem message_copied (sender : ProcessId) (bytes : Image) (len : Nat) :
    IpcSlot.message ⟨sender, len, writeBytes (fun _ => 0) 0 (readBytes bytes 0 len)⟩ =
      ⟨sender, readBytes bytes 0 len⟩ := by
  have copied := readBytes_writeBytes_self (fun _ => 0) 0 (readBytes bytes 0 len)
  rw [readBytes_length] at copied
  rw [IpcSlot.message, copied]

theorem takeFirst_cases {wanted : IpcSlot → Bool} {listed : IpcMessage → Bool}
    (same : ∀ slot, wanted slot = listed slot.message) :
    (queue.takeFirst .empty wanted = none ∧ queue.content.find? listed = none ∧
        queue.content.eraseP listed = queue.content) ∨
      ∃ slot rest, queue.takeFirst .empty wanted = some (slot, rest) ∧
        queue.content.find? listed = some slot.message ∧
        content rest = queue.content.eraseP listed := by
  obtain rfl : wanted = listed ∘ IpcSlot.message := funext same
  have taken := queue.takeFirst_eq .empty (listed ∘ IpcSlot.message)
  unfold content
  rw [List.find?_map, List.eraseP_map]
  cases found : queue.takeFirst .empty (listed ∘ IpcSlot.message) with
  | none =>
    rw [found] at taken
    have missing := Option.map_eq_none_iff.mp taken.symm
    refine .inl ⟨rfl, by rw [missing]; rfl, ?_⟩
    rw [List.eraseP_of_forall_not]
    simpa using missing
  | some pair =>
    rw [found] at taken
    obtain ⟨slot, first, equal⟩ := Option.map_eq_some_iff.mp taken.symm
    obtain ⟨rfl, kept⟩ := Prod.mk.inj equal
    exact .inr ⟨pair.1, pair.2, rfl, by rw [first]; rfl, congrArg _ kept.symm⟩

theorem taken_takeFirst {wanted : IpcSlot → Bool} {listed : IpcMessage → Bool}
    (same : ∀ slot, wanted slot = listed slot.message) :
    Prod.map id content (queue.taken (queue.takeFirst .empty wanted)) =
      (.message (queue.content.find? listed), queue.content.eraseP listed) := by
  obtain ⟨none, missing, kept⟩ | ⟨slot, rest, some, first, kept⟩ := takeFirst_cases queue same
  · rw [none, missing, kept]
    rfl
  · rw [some, first, ← kept]
    rfl

theorem perform_content (operation : QueueOperation) :
    Prod.map id content (queue.perform operation) = performOnList queue.content operation := by
  cases operation with
  | enqueue sender bytes len =>
    simp only [perform, enqueue, performOnList, length_content]
    by_cases full : queue.len = messageQueueCapacity
    · simp [full]
    · by_cases long : maxMessageBytes < len
      · simp [full, long]
      · simp [full, long, content, message_copied]
  | dequeueFifo =>
    by_cases vacant : queue.len = 0
    · have none : queue.content = [] := List.length_eq_zero_iff.mp
        ((length_content queue).trans vacant)
      simp [perform, dequeueFifo, vacant, taken, performOnList, none]
    · have inside : 0 < queue.len := Nat.pos_of_ne_zero vacant
      have first : queue.toList.head? = some (queue.items 0) := by
        rw [List.head?_eq_getElem?, queue.getElem?_toList inside]
      simp [perform, dequeueFifo, vacant, taken, performOnList,
        content, queue.toList_removeAt .empty inside, first]
  | dequeueFor receiver =>
    exact taken_takeFirst queue fun _ => rfl
  | dequeueTransactionReplyFor receiver transactionId =>
    refine taken_takeFirst queue fun slot => ?_
    rw [MessageQueue.repliesTo, u64LeAt_message]
    rfl
  | removeTransactionFromSender sender transactionId =>
    have same (slot : IpcSlot) :
        decide (slot.sender = sender ∧ slot.u64LeAt 0 = some transactionId) =
          ofTransaction sender transactionId slot.message := by
      rw [ofTransaction, u64LeAt_message]
      rfl
    simp only [perform, removeTransactionFromSender, performOnList]
    obtain ⟨none, missing, kept⟩ | ⟨slot, rest, some, first, kept⟩ := takeFirst_cases queue same
    · have absent : queue.content.any (ofTransaction sender transactionId) = false := by
        simpa using missing
      rw [none, kept, absent]
      rfl
    · have present : queue.content.any (ofTransaction sender transactionId) = true :=
        List.any_eq_true.mpr ⟨_, List.mem_of_find?_eq_some first, List.find?_some first⟩
      rw [some, ← kept, present]
      rfl
  | removeAllFromSender sender =>
    obtain ⟨count, list⟩ := queue.removeAll_eq .empty fun slot => decide (slot.sender = sender)
    have negated : (fun slot : IpcSlot => !decide (slot.sender = sender)) =
        (fun message : IpcMessage => decide (message.sender ≠ sender)) ∘ IpcSlot.message := by
      funext slot
      exact decide_not.symm
    simp only [perform, removeAllFromSender, performOnList, Prod.map_apply,
      id_eq, content, count, list, List.countP_map, List.filter_map, negated]
    rfl

end

theorem answersAlong_content (queue : SlotQueue) (operations : List QueueOperation) :
    Prod.map id content (answersAlong perform queue operations) =
      answersAlong performOnList queue.content operations := by
  induction operations generalizing queue with
  | nil => rfl
  | cons operation rest ih =>
    have step := perform_content queue operation
    have later := ih (queue.perform operation).2
    simp only [answersAlong, ← step, Prod.map_fst, Prod.map_snd, id_eq, ← later, Prod.map_apply]

theorem length_performOnList {messages : List IpcMessage}
    (room : messages.length ≤ messageQueueCapacity) (operation : QueueOperation) :
    (performOnList messages operation).2.length ≤ messageQueueCapacity := by
  cases operation with
  | enqueue sender bytes len =>
    simp only [performOnList]
    split
    · exact room
    split
    · exact room
    · simp only [List.length_append, List.length_singleton]
      omega
  | dequeueFifo =>
    simp only [performOnList, List.length_tail]
    omega
  | dequeueFor receiver => exact List.eraseP_sublist.length_le.trans room
  | dequeueTransactionReplyFor receiver transactionId =>
    exact List.eraseP_sublist.length_le.trans room
  | removeTransactionFromSender sender transactionId =>
    exact List.eraseP_sublist.length_le.trans room
  | removeAllFromSender sender => exact (List.length_filter_le ..).trans room

theorem length_answersAlong {messages : List IpcMessage}
    (room : messages.length ≤ messageQueueCapacity) (operations : List QueueOperation) :
    (answersAlong performOnList messages operations).2.length ≤ messageQueueCapacity := by
  induction operations generalizing messages with
  | nil => exact room
  | cons operation rest ih => exact ih (length_performOnList room operation)

theorem enqueue_ok_iff (queue : SlotQueue) (sender : ProcessId) (bytes : Image) (len : Nat) :
    (∃ after, queue.enqueue sender bytes len = .ok after) ↔
      ¬(queue.len = messageQueueCapacity ∨ maxMessageBytes < len) := by
  unfold enqueue
  by_cases full : queue.len = messageQueueCapacity
  · simp [full]
  · by_cases long : maxMessageBytes < len
    · simp [full, long]
    · simp [full, long]

/-- Whatever operations are performed on a queue, it answers as the list of messages does and
holds what the list holds.  It takes a message unless it is full or the message too long. -/
theorem slotQueue_refines_list (operations : List QueueOperation) :
    let slots := answersAlong perform .empty operations
    let list := answersAlong performOnList [] operations
    slots.1 = list.1 ∧ slots.2.content = list.2 ∧ list.2.length ≤ messageQueueCapacity ∧
      ∀ sender bytes len, (∃ after, slots.2.enqueue sender bytes len = .ok after) ↔
        ¬(list.2.length = messageQueueCapacity ∨ maxMessageBytes < len) := by
  intro slots list
  have refines : Prod.map id content slots = list := answersAlong_content .empty operations
  have content : slots.2.content = list.2 := congrArg Prod.snd refines
  refine ⟨congrArg Prod.fst refines, content, length_answersAlong (Nat.zero_le _) operations, ?_⟩
  intro sender bytes len
  rw [enqueue_ok_iff, ← content, length_content]

def twoOfOneTransaction : SlotQueue :=
  (answersAlong perform .empty
    [.enqueue ⟨1⟩ (fun _ => 0) 8, .enqueue ⟨1⟩ (fun _ => 0) 8]).2

/-- Removing a transaction removes the first of its messages only. -/
theorem removeTransactionFromSender_leaves_match :
    (twoOfOneTransaction.removeTransactionFromSender ⟨1⟩ 0).2.content ≠
      twoOfOneTransaction.content.filter fun message => !ofTransaction ⟨1⟩ 0 message := by
  decide +kernel

/-- The operations of the queues that the endpoints of the kernel model have. -/
def performOnQueue (queue : MessageQueue) : QueueOperation → QueueAnswer × MessageQueue
  | .enqueue sender bytes len =>
    match queue.enqueue sender (readBytes bytes 0 len) with
    | .ok after => (.accepted, after)
    | .error error => (.refused error, queue)
  | .dequeueFifo => taken queue.dequeueFifo
  | .dequeueFor receiver => taken (queue.dequeueFor receiver)
  | .dequeueTransactionReplyFor receiver transactionId =>
    taken (queue.dequeueTransactionReplyFor receiver transactionId)
  | .removeTransactionFromSender sender transactionId =>
    (.removed (queue.messages.any (ofTransaction sender transactionId)).toNat,
      queue.removeTransactionFromSender sender transactionId)
  | .removeAllFromSender sender =>
    (.removed (queue.messages.countP fun message => message.sender = sender),
      queue.removeAllFromSender sender)
where
  taken : Option (IpcMessage × MessageQueue) → QueueAnswer × MessageQueue
    | some (message, rest) => (.message (some message), rest)
    | none => (.message none, queue)

theorem dequeueWhere_messages (queue : MessageQueue) (wanted : IpcMessage → Bool) :
    Prod.map id MessageQueue.messages (performOnQueue.taken queue (queue.dequeueWhere wanted)) =
      (.message (queue.messages.find? wanted), queue.messages.eraseP wanted) := by
  unfold MessageQueue.dequeueWhere
  cases found : queue.messages.find? wanted with
  | none =>
    have kept : queue.messages.eraseP wanted = queue.messages := by
      rw [List.eraseP_of_forall_not]
      simpa using found
    exact congrArg (Prod.mk (QueueAnswer.message none)) kept.symm
  | some message => rfl

/-- The queues of the kernel model are these lists, for messages that fit into a slot. -/
theorem performOnQueue_messages (queue : MessageQueue) (operation : QueueOperation)
    (fits : ∀ sender bytes len, operation = .enqueue sender bytes len → len ≤ maxMessageBytes) :
    Prod.map id MessageQueue.messages (performOnQueue queue operation) =
      performOnList queue.messages operation := by
  cases operation with
  | enqueue sender bytes len =>
    have short := fits sender bytes len rfl
    have room := queue.length_le
    simp only [performOnQueue, MessageQueue.enqueue, performOnList]
    by_cases full : queue.messages.length = messageQueueCapacity
    · simp [full]
    · have spare : queue.messages.length < messageQueueCapacity := by omega
      simp [full, spare, Nat.not_lt.mpr short]
  | dequeueFifo =>
    refine (dequeueWhere_messages queue fun _ => true).trans ?_
    cases messages : queue.messages <;> simp [performOnList]
  | dequeueFor receiver => exact dequeueWhere_messages queue _
  | dequeueTransactionReplyFor receiver transactionId => exact dequeueWhere_messages queue _
  | removeTransactionFromSender sender transactionId => rfl
  | removeAllFromSender sender => rfl

/-- The calls of the kernel cannot tell their queues from arrays of slots. -/
theorem kernelQueue_refines_slots (operations : List QueueOperation)
    (fits : ∀ sender bytes len, .enqueue sender bytes len ∈ operations → len ≤ maxMessageBytes) :
    let queue := answersAlong performOnQueue .empty operations
    let slots := answersAlong perform .empty operations
    queue.1 = slots.1 ∧ queue.2.messages = slots.2.content := by
  have along (queue : MessageQueue) :
      Prod.map id MessageQueue.messages (answersAlong performOnQueue queue operations) =
        answersAlong performOnList queue.messages operations := by
    induction operations generalizing queue with
    | nil => rfl
    | cons operation rest ih =>
      have step := performOnQueue_messages queue operation (by grind)
      have later := ih (by grind) (performOnQueue queue operation).2
      simp only [answersAlong, ← step, Prod.map_fst, Prod.map_snd, id_eq, ← later, Prod.map_apply]
  have same := (along .empty).trans (answersAlong_content .empty operations).symm
  exact ⟨congrArg Prod.fst same, congrArg Prod.snd same⟩

theorem kernelQueue_refines_slots_exchange :
    (answersAlong performOnQueue .empty [.enqueue ⟨1⟩ (fun _ => 0) 8, .dequeueFor ⟨2⟩]).1 =
      (answersAlong perform .empty [.enqueue ⟨1⟩ (fun _ => 0) 8, .dequeueFor ⟨2⟩]).1 :=
  (kernelQueue_refines_slots _ (by simp +contextual [maxMessageBytes])).1

end VertexOS.MessageSlots
