import Lamella.Bytes
import Lamella.Recording

/-!
# Wave files

A wave file is a row of chunks, of which one tells the format of the samples and another holds them.
Samples are written in sixteen bits. They are read in sixteen bits or as machine numbers, and
several channels are mixed.

## Main definitions

- `Recording.toWave`: the bytes of the file of a recording.
- `Recording.ofWave?`: the recording of a file.
-/

namespace Lamella.Recording

/-- The magnitude of the greatest sample in sixteen bits. -/
def fullScale : Int := 32767

/-- A sample in sixteen bits; one beyond full scale is cut to it. -/
def quantized {S : Type} [Scalar S] (x : S) : Int :=
  match Scalar.round (x * Scalar.ofInt fullScale) with
  | .ok n => max (-fullScale) (min n fullScale)
  | .error _ => 0

/-- The bytes of a chunk. -/
def waveChunk (tag : String) (data : List UInt8) : List UInt8 :=
  Bytes.ofText tag ++ Bytes.low 4 data.length ++ data

/-- The bytes of the wave file of a recording. -/
def toWave {S : Type} [Scalar S] (r : Recording S) : List UInt8 :=
  let rate := r.rate.toNat
  let format := Bytes.low 2 1 ++ Bytes.low 2 1 ++ Bytes.low 4 rate ++ Bytes.low 4 (2 * rate) ++
    Bytes.low 2 2 ++ Bytes.low 2 16
  let data := r.samples.toList.flatMap fun x => Bytes.low 2 (quantized x % 65536).toNat
  waveChunk "RIFF" (Bytes.ofText "WAVE" ++ waveChunk "fmt " format ++ waveChunk "data" data)

/-- How samples are held: in sixteen bits, or as machine numbers. -/
inductive SampleFormat where
  | sixteen
  | machine
deriving DecidableEq, Inhabited

namespace SampleFormat

/-- The format of a code and a count of bits. -/
def of? : Nat → Nat → Option SampleFormat
  | 1, 16 => some sixteen
  | 3, 32 => some machine
  | _, _ => none

/-- The bytes of a sample. -/
def width : SampleFormat → Nat
  | sixteen => 2
  | machine => 4

/-- The sample of a word. -/
def decode (word : Nat) : SampleFormat → Float32
  | sixteen =>
    let n : Int := if word < 32768 then word else (word : Int) - 65536
    Float32.ofInt n / 32768
  | machine => Float32.ofBits (UInt32.ofNat word)

end SampleFormat

/-- The numbers of bytes, each in `width + 1` of them, the low one first; bytes left over are
dropped. -/
def words (width : Nat) (word : List UInt8) : List UInt8 → List Nat
  | [] => []
  | b :: rest =>
    if word.length = width then Bytes.ofLow (b :: word).reverse :: words width [] rest
    else words width (b :: word) rest

/-- Every sample of a channel, of rows of samples of some channels. -/
def channel (count i : Nat) (samples : List Float32) : List Float32 :=
  (samples.zipIdx.filter fun (_, j) => j % count = i).map (·.1)

/-- The chunks of bytes; one that is cut off is dropped. -/
def waveChunks (fuel : Nat) (bytes : List UInt8) : List (List UInt8 × List UInt8) :=
  match fuel with
  | 0 => []
  | fuel + 1 =>
    match Bytes.take? 8 bytes with
    | none => []
    | some (head, rest) =>
      let size := Bytes.ofLow (head.drop 4)
      match Bytes.take? size rest with
      | none => []
      | some (data, rest) =>
        (head.take 4, data) :: waveChunks fuel (rest.drop (size % 2))

/-- The recording of the bytes of a wave file. -/
def ofWave? (bytes : List UInt8) : Option (Recording Float32) := do
  let (head, rest) ← Bytes.take? 12 bytes
  guard (head.take 4 = Bytes.ofText "RIFF" ∧ head.drop 8 = Bytes.ofText "WAVE")
  let chunks := waveChunks rest.length rest
  let format ← chunks.lookup (Bytes.ofText "fmt ")
  let data ← chunks.lookup (Bytes.ofText "data")
  match words 1 [] format with
  | code :: count :: low :: high :: _ :: _ :: _ :: bits :: _ =>
    let f ← SampleFormat.of? code bits
    guard (count ≠ 0)
    let samples := (words (f.width - 1) [] data).map fun word => f.decode word
    let channels := (List.range count).map fun i => channel count i samples
    return ⟨(mix channels).toArray, (low + 65536 * high : Nat)⟩
  | _ => none

end Lamella.Recording
