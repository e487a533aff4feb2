import Lamella.Value.Reader

/-!
# Faults

Why an operation has no result. A fault names its cause and carries, as text, the values that its
message shows; the wording of every cause is in `Fault.message`, and `Fault.kind` sorts the causes
by what a caller can do about them.

A `Warning` is a remark on a result that was reached all the same.
-/

namespace Lamella

/-- Why an operation has no result. -/
inductive Fault where
  -- notes
  | earlyNote (time : Text)
  | emptyNote (duration : Text)
  | unplacedNote (entry : Text)
  | endlessNote (entry : Text)
  | noteName (name : Text)
  | frequency (value : Text)
  -- metre and grid
  | numerator (n : Int)
  | denominator (n : Int)
  | metre (value : Text)
  | tempo (value : Text)
  | subdivisions (n : Int)
  -- songs
  | difficulty (value : Text)
  | level (value : Text)
  | notASong
  | fieldMissing (name : Text)
  | notesNoList
  | notALibrary
  | songText (flaw : Flaw)
  -- layouts
  | noKeys
  | scattered (indices : List Int)
  | tineCount (n : Int)
  | scale (name : Text) (valid : List String)
  | preset (id : Text) (valid : List String)
  -- judging and settings
  | hitWindow (value : Text)
  | windowFractions
  | noteSpeed (value : Text)
  | pitchTolerance (value : Text)
  | thresholdOrder
  | tiersMissing (names : List String)
  -- recordings
  | pitchMethod (name : Text)
  | noteOffset (offset onset : Text)
  | threshold (name value : Text)
  | noteFrames (n : Int)
  | audioFormat (suffix : Text) (supported : List String)
  | blockSize
  | negativeLength
  | tooManySamples
  | noRoom
  | brokenSample
  | unequalRows
  | keyMissing (key : Int) (layout : Text)
  | notReady
  | noNotes
  -- MIDI files
  | byteRange
  | metaRange (most : Nat)
  | noteEnd
  | tooManyTicks (tick : Int)
  | notMidi
  | shortMidi
  -- files
  | songFile (path : Text)
  | midiFile (path : Text)
  | audioFile (path : Text)
  | sourceFile (path : Text)
  | nameless (path : Text)
  | zeroByte
  | longName
  | isFolder
  | notAFolder
  | fileExists
  | notText
  | noSound (path : Text)
  | soundFormat (path : Text)
  | soundPlace (path : Text)
  -- output
  | unopenedTag (name : Text)
  | tagParameters (text : Text)
  -- conversions
  | notANumber (text : Text)
  | notAnInteger (text : Text)
  | tooManyDigits (count : Nat)
  | unwritable
  | undefinedInteger
  | unlisted
  | infiniteInteger
  | tooLarge
  | uncountable
  | longText
  | badJson (flaw : Flaw)
  | nestedText
  | halfCharacter (place count unit : Nat)
  -- access
  | wrongShape
  | noMember
  | noEntry
  | outOfRange
  | zeroDivisor
deriving DecidableEq, Inhabited

/-- What a caller can do about a fault: `invalid` and `layout` are faults of the data given, with a
message of their own; `conversion` is data that is no number or none of a list of names. -/
inductive Fault.Kind where
  | invalid
  | layout
  | conversion
  | unreadable
  | nesting
  | encoding
  | missing
  | noNotes
  | notReady
  | shape
  | member
  | entry
  | range
  | overflow
  | zeroDivisor
  | folder
  | notFolder
  | exists
  | system
  | endOfFile
  | sound
  | soundPlace
  | room
  | textRoom
  | broken
  | markup
deriving DecidableEq, Inhabited

namespace Fault

/-- A gap where an integer was wanted. -/
def ofGap : Gap → Fault
  | .undefined => undefinedInteger
  | .infinite => infiniteInteger

/-- The kind of a fault. -/
def kind : Fault → Kind
  | noKeys | scattered _ | tineCount _ | scale _ _ => .layout
  | notANumber _ | notAnInteger _ | tooManyDigits _ | unwritable | undefinedInteger | unlisted
  | blockSize | negativeLength | tooManySamples | unequalRows | byteRange | metaRange _ | noteEnd
  | tooManyTicks _ | nameless _ | zeroByte | notText => .conversion
  | badJson _ => .unreadable
  | nestedText => .nesting
  | halfCharacter .. => .encoding
  | songFile _ | midiFile _ | audioFile _ | sourceFile _ => .missing
  | noNotes => .noNotes
  | notReady => .notReady
  | wrongShape | soundFormat _ => .shape
  | noMember => .member
  | noEntry => .entry
  | outOfRange => .range
  | infiniteInteger | tooLarge | uncountable => .overflow
  | zeroDivisor => .zeroDivisor
  | isFolder => .folder
  | notAFolder => .notFolder
  | fileExists => .exists
  | notMidi | longName => .system
  | shortMidi => .endOfFile
  | noSound _ => .sound
  | soundPlace _ => .soundPlace
  | noRoom => .room
  | longText => .textRoom
  | brokenSample => .broken
  | unopenedTag _ | tagParameters _ => .markup
  | _ => .invalid

/-- The names of a list in quotes, between brackets. -/
def quotedNames (names : List String) : Text :=
  "[" ++ Text.join ", " (names.map fun (name : String) => Text.quoted name) ++ "]"

/-- The wording of a fault. -/
def message : Fault → Text
  | earlyNote time => "Note time must be >= 0, got " ++ time
  | emptyNote duration => "Note duration must be > 0, got " ++ duration
  | unplacedNote entry => "Invalid note entry: " ++ entry
  | endlessNote entry => "Note entry has no duration: " ++ entry
  | noteName name => "Unknown note name: " ++ Text.quoted name
  | frequency value => "Frequency must be positive, got " ++ value
  | numerator n => "Invalid time signature numerator: " ++ toString n
  | denominator n => "Invalid time signature denominator: " ++ toString n
  | metre value => "Invalid time signature: " ++ value
  | tempo value => "BPM must be positive, got " ++ value
  | subdivisions n => "Subdivisions must be >= 1, got " ++ toString n
  | difficulty value => "Invalid difficulty: " ++ value
  | level value => "Invalid difficulty level: " ++ value
  | notASong => "Invalid song format: expected an object"
  | fieldMissing name => "Invalid song format: missing '" ++ name ++ "'"
  | notesNoList => "Invalid song format: 'notes' must be a list"
  | notALibrary => "Invalid song library: expected a list"
  | songText flaw => "Invalid song JSON: " ++ flaw.message
  | noKeys => "Layout has no keys"
  | scattered indices => "Layout indices must be contiguous from 0, got " ++ shownInts indices
  | tineCount n => "Tine count must be positive, got " ++ toString n
  | scale name valid => "Unknown scale '" ++ name ++ "'. Valid: " ++ ", ".intercalate valid
  | preset id valid =>
    "Unknown hardware preset '" ++ id ++ "'. Valid: " ++ ", ".intercalate valid
  | hitWindow value => "Hit window must be positive, got " ++ value
  | windowFractions => "Timing windows must satisfy 0 < perfect <= good <= 1"
  | noteSpeed value => "Note speed must be between 1 and 10, got " ++ value
  | pitchTolerance value => "Pitch tolerance must be positive, got " ++ value
  | thresholdOrder => "Combo thresholds must be in ascending order"
  | tiersMissing names => "Missing tier values for: " ++ quotedNames names
  | pitchMethod name => "Unknown pitch detection method: " ++ name
  | noteOffset offset onset =>
    "Note offset (" ++ offset ++ ") must be after onset (" ++ onset ++ ")"
  | threshold name value => name ++ " must be between 0 and 1, got " ++ value
  | noteFrames n => "min_note_frames must be >= 1, got " ++ toString n
  | audioFormat suffix supported =>
    "Unsupported format: " ++ suffix ++ ". Supported: " ++ quotedNames supported
  | blockSize => "range() arg 3 must not be zero"
  | negativeLength => "negative dimensions are not allowed"
  | tooManySamples => "Maximum allowed dimension exceeded"
  | noRoom => "there is no room for so many samples"
  | brokenSample => "a sample is not a finite number"
  | unequalRows => "channels differ in length"
  | keyMissing key layout => "No key " ++ toString key ++ " on " ++ layout
  | notReady => "AudioEngine is not initialized; call init() first"
  | noNotes => "No notes detected. Try a clearer audio file."
  | byteRange => "data byte must be in range 0..127"
  | metaRange most => "attribute must be in range 0.." ++ toString most
  | noteEnd => "Note end time must be greater than start time"
  | tooManyTicks tick =>
    "MIDI file has a largest tick of " ++ toString tick ++ ", it is likely corrupt"
  | notMidi => "not a MIDI file"
  | shortMidi => "the file ends in its header"
  | songFile path => "Song file not found: " ++ path
  | midiFile path => "MIDI file not found: " ++ path
  | audioFile path => "Audio file not found: " ++ path
  | sourceFile path => "File not found: " ++ path
  | nameless path => Text.quoted path ++ " has an empty name"
  | zeroByte => "embedded null byte"
  | longName => "the name is too long"
  | isFolder => "the path is a folder"
  | notAFolder => "a part of the path is a file"
  | fileExists => "the path is taken by a file"
  | notText => "the file holds no text"
  | noSound path => "the file holds no recording: " ++ path
  | soundFormat path => "no format of recordings is named by: " ++ path
  | soundPlace path => "no recording can be saved at: " ++ path
  | unopenedTag name => "closing tag '" ++ name ++ "' doesn't match any open tag"
  | tagParameters text => "the parameters of a tag are no literal: " ++ Text.quoted text
  | notANumber text => "could not convert string to float: " ++ Text.quoted text
  | notAnInteger text =>
    "invalid literal for int() with base 10: " ++ (Text.quoted text).take 200
  | tooManyDigits count => Decimal.tooLong count
  | unwritable => Decimal.unwritable
  | undefinedInteger => "cannot convert float NaN to integer"
  | unlisted => "not one of the listed names"
  | infiniteInteger => "cannot convert float infinity to integer"
  | tooLarge => "int too large to convert to float"
  | uncountable => "cannot fit 'int' into an index-sized integer"
  | longText => "there is no room for so long a text"
  | badJson flaw => flaw.message
  | nestedText => "the text is nested too deeply"
  | halfCharacter place count unit =>
    "'utf-8' codec can't encode character" ++
      (if count = 1 then
        " '" ++ Text.ofChars (Text.unitEscape unit) ++ "' in position " ++ toString place
      else "s in position " ++ toString place ++ "-" ++ toString (place + count - 1)) ++
      ": surrogates not allowed"
  | wrongShape => "a value of this kind has no such operation"
  | noMember => "a value of this kind has no such member"
  | noEntry => "no entry of that name"
  | outOfRange => "index out of range"
  | zeroDivisor => "division by zero"

end Fault

/-- A remark on a result that was reached all the same. -/
inductive Warning where
  /-- Note ids that were used more than once. -/
  | reissued (count : Nat) (ids : Text)
  /-- Tablature that stands for no note; the first few places are named. -/
  | skipped (count : Nat) (first : List Text)
  /-- Notes that tablature cannot show. -/
  | unlabelled (count : Nat) (keys : List Int)
  /-- A root note that was not understood. -/
  | unknownRoot (name : Text)
  /-- Notes on keys that the layout lacks. -/
  | missingKeys (count : Nat) (layout : Text)
  /-- A first transcription without notes. -/
  | retrying
deriving DecidableEq, Inhabited

namespace Warning

/-- The wording of a warning. -/
def message : Warning → Text
  | reissued count ids =>
    "Re-issued ids for " ++ toString count ++ " note(s) with duplicate ids: " ++ ids
  | skipped count first =>
    "Skipped " ++ toString count ++ " notation token(s): " ++ Text.join ", " first ++
      (if first.length < count then " (+" ++ toString (count - first.length) ++ " more)" else "")
  | unlabelled count keys =>
    "Skipped " ++ toString count ++ " note(s) on keys without a notation label: " ++ shownInts keys
  | unknownRoot name => "Unknown root note '" ++ name ++ "', falling back to C"
  | missingKeys count layout =>
    toString count ++ " note(s) use keys missing from " ++ layout
  | retrying => "No notes detected, retrying with relaxed thresholds"

end Warning

end Lamella
