import VertexOS.VfsPaths

/-! # Message queues and endpoints -/

namespace VertexOS

open ByteStrings

@[ext]
structure ProcessId where
  raw : Nat
deriving DecidableEq, Repr

def ProcessId.empty : ProcessId := ⟨0⟩

structure KernelObjectId where
  raw : Nat
deriving DecidableEq, Repr

def maxMessageBytes : Nat := 512

def messageQueueCapacity : Nat := 4

structure IpcMessage where
  sender : ProcessId
  bytes : Bytes
deriving DecidableEq, Repr

def IpcMessage.u64LeAt (message : IpcMessage) (offset : Nat) : Option Nat :=
  readLe? 8 message.bytes offset

structure MessageQueue where
  messages : List IpcMessage
  length_le : messages.length ≤ messageQueueCapacity
deriving DecidableEq

namespace MessageQueue

variable (queue : MessageQueue) (receiver : ProcessId)

def empty : MessageQueue := ⟨[], by decide⟩

def enqueue (sender : ProcessId) (bytes : Bytes) :
    Except IpcError MessageQueue :=
  if room : queue.messages.length < messageQueueCapacity then
    .ok ⟨queue.messages ++ [⟨sender, bytes⟩], by simpa using room⟩
  else .error .messageTooLarge

def dequeueWhere (wanted : IpcMessage → Bool) :
    Option (IpcMessage × MessageQueue) :=
  (queue.messages.find? wanted).map fun message =>
    (message, ⟨queue.messages.eraseP wanted,
      (List.eraseP_sublist).length_le.trans queue.length_le⟩)

def fromOther (message : IpcMessage) : Bool :=
  message.sender ≠ receiver

def repliesTo (transactionId : Nat) (message : IpcMessage) : Bool :=
  message.sender ≠ receiver ∧ message.u64LeAt 0 = some transactionId

def hasMessageFor : Bool :=
  queue.messages.any (fromOther receiver)

def dequeueFor :
    Option (IpcMessage × MessageQueue) :=
  queue.dequeueWhere (fromOther receiver)

def hasTransactionReplyFor
    (transactionId : Nat) : Bool :=
  queue.messages.any (repliesTo receiver transactionId)

def dequeueTransactionReplyFor
    (transactionId : Nat) : Option (IpcMessage × MessageQueue) :=
  queue.dequeueWhere (repliesTo receiver transactionId)

def dequeueFifo : Option (IpcMessage × MessageQueue) :=
  queue.dequeueWhere fun _ => true

def removeTransactionFromSender (sender : ProcessId)
    (transactionId : Nat) : MessageQueue :=
  ⟨queue.messages.eraseP fun message =>
      message.sender = sender ∧ message.u64LeAt 0 = some transactionId,
    (List.eraseP_sublist).length_le.trans queue.length_le⟩

def removeAllFromSender (sender : ProcessId) : MessageQueue :=
  ⟨queue.messages.filter fun message => message.sender ≠ sender,
    (List.length_filter_le ..).trans queue.length_le⟩

end MessageQueue

structure IpcEndpoint where
  id : KernelObjectId
  name : String
  owner : ProcessId
  queue : MessageQueue
deriving DecidableEq

namespace IpcEndpoint

def new (id : KernelObjectId) (name : String) (owner : ProcessId) : IpcEndpoint :=
  { id, name, owner, queue := .empty }

def hasMessageFor (endpoint : IpcEndpoint) (receiver : ProcessId) : Bool :=
  endpoint.queue.hasMessageFor receiver

end IpcEndpoint

end VertexOS
