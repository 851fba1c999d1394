import LifecycleHooks.FileTree.Node

/-!
What descriptors stand for: the two ends of pipes, open files, directories and devices.
-/

namespace LifecycleHooks.Process

open Text (Bytes)

inductive Channel
  | reader (pipe : Nat)
  | writer (pipe : Nat)
  | file (handle : Nat)
  /-- A directory by its number. It can be opened, but not read like a file. -/
  | directory (number : Nat)
  | device (device : Device)
  deriving DecidableEq

abbrev Channels := List (Nat × Channel)

/-- The bytes in a pipe. What was written last is kept apart in pieces, the latest first, so that
writing does not copy what is there. -/
structure Pipe where
  front : Bytes
  back : List Bytes

def splitLine (bytes : Bytes) : Bytes × Bytes :=
  let line := bytes.takeWhile (· != 10)
  let rest := bytes.drop line.length
  (line ++ rest.take 1, rest.drop 1)

namespace Pipe

def empty : Pipe := ⟨[], []⟩

def content (pipe : Pipe) : Bytes := pipe.front ++ pipe.back.reverse.flatten

def push (pipe : Pipe) (bytes : Bytes) : Pipe := { pipe with back := bytes :: pipe.back }

def isEmpty (pipe : Pipe) : Bool := pipe.front.isEmpty && pipe.back.all List.isEmpty

def length (pipe : Pipe) : Nat :=
  pipe.back.foldl (fun length piece => length + piece.length) pipe.front.length

def hasByte (pipe : Pipe) (byte : UInt8) : Bool :=
  pipe.front.contains byte || pipe.back.any fun piece => piece.contains byte

def take (pipe : Pipe) (count : Nat) : Bytes × Pipe :=
  let bytes := pipe.front.take count
  if bytes.length == count then (bytes, { pipe with front := pipe.front.drop count })
  else (pipe.content.take count, ⟨pipe.content.drop count, []⟩)

def takeLine (pipe : Pipe) : Bytes × Pipe :=
  if pipe.front.contains 10 then
    let (line, rest) := splitLine pipe.front
    (line, { pipe with front := rest })
  else
    let (line, rest) := splitLine pipe.content
    (line, ⟨rest, []⟩)

end Pipe

inductive Access
  | reading
  /-- What was in the file is lost. -/
  | writing
  | appending
  /-- What was in the file stays, and the place of the next byte is its start. -/
  | both
  deriving DecidableEq

def Access.reads : Access → Bool
  | .reading => true
  | .both => true
  | _ => false

def Access.writes (access : Access) : Bool := access != .reading

structure OpenFile where
  node : Nat
  offset : Nat
  access : Access

def overwrite (content : Bytes) (offset : Nat) (bytes : Bytes) : Bytes :=
  content.take offset ++ List.replicate (offset - content.length) 0 ++ bytes ++
    content.drop (offset + bytes.length)

end LifecycleHooks.Process
