import Lamella.Main
import Lamella.Score.Rank
import Lamella.Session.Basic
import Lamella.Synth.Room
import Lamella.Proofs.Layout.Outside
import Lamella.Proofs.Midi.Return
import Lamella.Proofs.Session.Edges
import Lamella.Proofs.Session.Frames
import Lamella.Proofs.Session.Gate
import Lamella.Proofs.Session.Late
import Lamella.Proofs.Session.Scanning
import Lamella.Proofs.Session.Pauses
import Lamella.Proofs.Session.Estimates
import Lamella.Proofs.Song.Admitted
import Lamella.Proofs.Song.Exchange
import Lamella.Proofs.Song.Taking
import Lamella.Proofs.Synth.Mix
import Lamella.Proofs.Tab.Accounts
import Lamella.Proofs.Tab.Canonical
import Lamella.Proofs.Tab.Joined
import Lamella.Proofs.Tab.Nested
import Lamella.Proofs.Tab.Rearranged
import Lamella.Proofs.Text.Integers
import Lamella.Proofs.Song.Owning
import Lamella.Proofs.Transcript.Agreement
import Lamella.Proofs.Decimal.Shortest
import Lamella.Proofs.Song.Exported
import Lamella.Proofs.Command.Outcomes
import Lamella.Proofs.Tab.Compact
import Lamella.Proofs.Transcript.Slots
import Lamella.Proofs.Transcript.Relaxed
import Lamella.Proofs.Tab.Lossless
import Lamella.Proofs.Tab.Grammar
import Lamella.Proofs.Synth.Course
import Lamella.Proofs.Pitch.Named
import Lamella.Proofs.Command.Terminal
import Lamella.Proofs.Command.Warnings
