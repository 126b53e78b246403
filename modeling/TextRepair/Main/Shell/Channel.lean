import TextRepair.FileTree
import TextRepair.Main.Shell.Bytes

/-!
# Channels

What commands read from and write to: texts, buffers, files and devices. Several streams may share one
channel, with one place in its file. What a buffer gets carries the time at which it was written, so
commands that run at the same time write in the right order.

* `World.write` : a text written to a channel.
* `World.unread` : what is left to read of a channel.
-/

namespace TextRepair.Shell

/-- What may be done with an open file. -/
structure Access where
  reads : Bool
  writes : Bool
  /-- All that is written goes to the end. -/
  appends : Bool
  deriving DecidableEq, Repr

/-- Something to read from or to write to. -/
inductive Channel where
  /-- What is left of a text, whose end is known from some time on. -/
  | text (rest : String) (ready : Nat)
  | buffer (i : Nat)
  | nowhere
  /-- A device without room. -/
  | full
  /-- An open file and the place of the next byte. -/
  | file (p : Path) (offset : Nat) (access : Access)
  deriving Repr

/-- A text written to a buffer at some time by a job, 0 for the shell itself. -/
structure Chunk where
  time : Nat
  job : Nat
  text : String
  deriving Repr

/-- What is written to be read by another command. -/
structure Buffer where
  /-- The last one comes first. -/
  chunks : List Chunk
  size : Nat
  /-- The number of bytes after which a writer is stuck for good. -/
  room : Option Nat
  /-- The jobs that may write to the buffer, with the times at which they end. -/
  writers : List (Nat × Nat)
  deriving Repr

instance : Inhabited Buffer := ⟨⟨[], 0, none, []⟩⟩

namespace Buffer

/-- The text of a buffer in the order of time. -/
def text (b : Buffer) : String :=
  String.join ((b.chunks.reverse.mergeSort fun c d => decide (c.time ≤ d.time)).map Chunk.text)

/-- The time at which the last writer has ended. -/
def ready (b : Buffer) (now : Nat) : Nat :=
  (b.writers.map Prod.snd).foldl max now

/-- Without what a job would have written after it was ended. -/
def withoutLate (job time : Nat) (b : Buffer) : Buffer :=
  { b with
    chunks := b.chunks.filter fun c => c.job ≠ job || c.time ≤ time
    writers := b.writers.map fun w => if w.1 = job then (job, min w.2 time) else w }

end Buffer

/-- Why nothing can be written. -/
inductive WriteError where
  | closed
  | noRoom
  /-- Nobody reads what has been written, and the writer is stuck. -/
  | stuck
  deriving DecidableEq, Repr

/-- The reason for a user. -/
def WriteError.reason : WriteError → String
  | closed => "Bad file descriptor"
  | noRoom => "No space left on device"
  | stuck => "Broken pipe"

/-- What a shell shares with those that it starts. Times are microseconds since the start. -/
structure World where
  tree : FileTree
  channels : Array Channel
  buffers : Array Buffer
  now : Nat
  limit : Nat
  /-- The number of jobs started so far. -/
  jobCount : Nat

namespace World

/-- A new channel and its number. -/
def newChannel (w : World) (c : Channel) : Nat × World :=
  (w.channels.size, { w with channels := w.channels.push c })

/-- A new buffer with room for a number of bytes, its number, and the number of a channel to it. -/
def newBuffer (w : World) (room : Option Nat) : Nat × Nat × World :=
  let i := w.buffers.size
  let (channel, w) := w.newChannel (.buffer i)
  (i, channel, { w with buffers := w.buffers.push ⟨[], 0, room, []⟩ })

/-- The buffer with a number. -/
def bufferAt (w : World) (i : Nat) : Buffer :=
  w.buffers[i]?.getD default

/-- Bytes with others in place of those from an offset on, and zeros in front of them if need be. -/
def overwritten (before : ByteArray) (offset : Nat) (added : ByteArray) : ByteArray :=
  let gap := ByteArray.mk (Array.replicate (offset - before.size) 0)
  before.extract 0 offset ++ gap ++ added ++ before.extract (offset + added.size) before.size

/-- Writes a text to a channel for a job. -/
def write (w : World) (job channel : Nat) (text : String) : Except WriteError World :=
  match w.channels[channel]? with
  | some (.buffer i) =>
    let b := w.bufferAt i
    if b.room.any (· < b.size) then .error .stuck
    else .ok { w with buffers := w.buffers.modify i fun b =>
      { b with chunks := ⟨w.now, job, text⟩ :: b.chunks, size := b.size + text.length } }
  | some (.file p offset access) =>
    if !access.writes then .error .closed
    else
      let before := (w.tree.readAt p).toOption.getD .empty
      let added := Bytes.toContent text
      let offset := if access.appends then before.size else offset
      let isThere := (w.tree.node? p).isSome
      .ok { w with
        tree := if isThere then w.tree.put p (.file (overwritten before offset added)) else w.tree
        channels := w.channels.setIfInBounds channel (.file p (offset + added.size) access) }
  | some .nowhere => .ok w
  | some .full => .error .noRoom
  | _ => .error .closed

/-- What is left to read of a channel, none if nothing can be read from it, and when its end is known. -/
def unread (w : World) (channel : Nat) : Option String × Nat :=
  match w.channels[channel]? with
  | some (.text rest ready) => (some rest, ready)
  | some (.file p offset access) =>
    let content := (w.tree.readAt p).toOption.getD .empty
    (if access.reads then some (Bytes.ofContent (content.extract offset content.size)) else none, 0)
  | some .nowhere | some .full => (some "", 0)
  | _ => (none, 0)

/-- Leaves a text to read in a channel. -/
def setUnread (w : World) (channel : Nat) (rest : String) : World :=
  match w.channels[channel]? with
  | some (.text _ ready) =>
    { w with channels := w.channels.setIfInBounds channel (.text rest ready) }
  | some (.file p _ access) =>
    let size := ((w.tree.readAt p).toOption.getD .empty).size
    { w with channels := w.channels.setIfInBounds channel (.file p (size - rest.length) access) }
  | _ => w

end World

end TextRepair.Shell
