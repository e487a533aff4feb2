import Lamella.Bytes
import Lamella.Midi.File

/-!
# MIDI files in bytes

A file has a header and two tracks, one for tempo and metres and one for the instrument. In a track
each message follows the ticks since the last one. Files of one instrument that leave no message out
are read back.

## Main definitions

- `Midi.File.toBytes`: the bytes of a file.
- `Midi.File.ofBytes?`: the file of bytes.
-/

namespace Lamella.Midi

/-- A message of a track. -/
inductive Message where
  | name (s : Text)
  | tempo (micros : Int)
  | metre (m : Metre)
  | program (number : Int)
  | note (pitch velocity : Int)
  /-- The end of the track. -/
  | stop
  /-- A message that means nothing here. -/
  | other
deriving DecidableEq, Inhabited

namespace Message

/-- A message about the track: its kind and its data. -/
def about (kind : UInt8) (data : List UInt8) : List UInt8 :=
  255 :: kind :: Bytes.groups data.length ++ data

/-- The bytes of a message. -/
def toBytes : Message → List UInt8
  | name s => about 3 (Bytes.ofText s.display)
  | tempo micros => about 81 (Bytes.high 3 micros.toNat)
  | metre m =>
    about 88 [UInt8.ofNat m.numerator.toNat, UInt8.ofNat m.denominator.toNat.log2, 24, 8]
  | program number => [192, UInt8.ofNat number.toNat]
  | note pitch velocity => [144, UInt8.ofNat pitch.toNat, UInt8.ofNat velocity.toNat]
  | stop => about 47 []
  | other => []

/-- A message about the track of its kind and its data. -/
def ofAbout (kind : UInt8) (data : List UInt8) : Message :=
  match kind, data with
  | 3, data => (Bytes.text? data).elim other fun s => name s
  | 81, data => tempo (Bytes.ofHigh data)
  | 88, n :: d :: _ =>
    match Metre.ofNumbers n.toNat (Nat.pow 2 d.toNat) with
    | .ok m => metre m
    | .error _ => other
  | 47, _ => stop
  | _, _ => other

/-- Reads a message that begins with its status, and the bytes after it. -/
def read? : List UInt8 → Option (Message × List UInt8)
  | [] => none
  | 255 :: kind :: rest => do
    let (size, rest) ← Bytes.readGroups? 0 rest
    let (data, rest) ← Bytes.take? size rest
    return (ofAbout kind data, rest)
  | status :: rest =>
    match status.toNat / 16, rest with
    | 8, pitch :: _ :: rest => some (note pitch.toNat 0, rest)
    | 9, pitch :: velocity :: rest => some (note pitch.toNat velocity.toNat, rest)
    | 12, number :: rest => some (program number.toNat, rest)
    | 13, _ :: rest => some (other, rest)
    | 10, _ :: _ :: rest | 11, _ :: _ :: rest | 14, _ :: _ :: rest => some (other, rest)
    | _, _ => none

end Message

/-! ## Tracks -/

/-- The bytes of a chunk. -/
def chunk (tag : String) (data : List UInt8) : List UInt8 :=
  Bytes.ofText tag ++ Bytes.high 4 data.length ++ data

/-- The bytes of messages at ticks, after a tick. -/
def trackBytes (tick : Int) : List (Int × Message) → List UInt8
  | [] => Bytes.groups 1 ++ Message.stop.toBytes
  | (next, m) :: rest =>
    Bytes.groups (next - tick).toNat ++ m.toBytes ++ trackBytes next rest

/-- The messages of a track at their ticks, after a tick, up to its end. -/
def readTrack? (fuel : Nat) (tick : Int) (bytes : List UInt8) : Option (List (Int × Message)) :=
  match fuel with
  | 0 => none
  | fuel + 1 => do
    let (wait, rest) ← Bytes.readGroups? 0 bytes
    let (m, rest) ← Message.read? rest
    let tick := tick + wait
    if m = .stop then return [] else return (tick, m) :: (← readTrack? fuel tick rest)

/-- The messages of some tracks. -/
def readTracks? : Nat → List UInt8 → Option (List (Int × Message))
  | 0, _ => some []
  | count + 1, bytes => do
    let (head, rest) ← Bytes.take? 8 bytes
    guard (head.take 4 = Bytes.ofText "MTrk")
    let (data, rest) ← Bytes.take? (Bytes.ofHigh (head.drop 4)) rest
    return (← readTrack? data.length 0 data) ++ (← readTracks? count rest)

/-! ## Files -/

namespace File

/-- The bytes of a file. -/
def toBytes (f : File) : List UInt8 :=
  let timing := (0, Message.tempo f.tempo) :: f.metres.map fun (m, tick) => (tick, .metre m)
  let notes := f.events.map fun e => (e.tick, Message.note e.pitch e.velocity)
  chunk "MThd" (Bytes.high 2 1 ++ Bytes.high 2 2 ++ Bytes.high 2 resolution.toNat) ++
    chunk "MTrk" (trackBytes 0 timing) ++
    chunk "MTrk" (trackBytes 0 ((0, .name f.name) :: (0, .program f.program) :: notes))

/-- A file with a message more. -/
def withMessage (f : File) : Int × Message → File
  | (_, .name s) => { f with name := s }
  | (_, .tempo micros) => { f with tempo := micros }
  | (tick, .metre m) => { f with metres := f.metres ++ [(m, tick)] }
  | (_, .program number) => { f with program := number }
  | (tick, .note pitch velocity) => { f with events := ⟨tick, pitch, velocity⟩ :: f.events }
  | (_, .stop) | (_, .other) => f

/-- The file of bytes, if its beat has as many ticks as those that are written here. -/
def ofBytes? (bytes : List UInt8) : Option File := do
  let (head, rest) ← Bytes.take? 14 bytes
  guard (head.take 8 = Bytes.ofText "MThd" ++ Bytes.high 4 6)
  guard ((Bytes.ofHigh (head.drop 12) : Int) = resolution)
  let messages ← readTracks? (Bytes.ofHigh ((head.drop 10).take 2)) rest
  let f := messages.foldl withMessage ⟨500000, [], 0, "", []⟩
  return { f with events := f.events.reverse }

end File

end Lamella.Midi
