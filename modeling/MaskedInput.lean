import MaskedInput.Main
import MaskedInput.Registry
import MaskedInput.Proofs.AtEnd
import MaskedInput.Proofs.Layout
import MaskedInput.Proofs.Compiling
import MaskedInput.Proofs.Completeness
import MaskedInput.Proofs.Decoding
import MaskedInput.Proofs.Editing
import MaskedInput.Proofs.Erasing
import MaskedInput.Proofs.Extension
import MaskedInput.Proofs.Filling
import MaskedInput.Proofs.IgnoringCase
import MaskedInput.Proofs.Isolation
import MaskedInput.Proofs.Landing
import MaskedInput.Proofs.Matching
import MaskedInput.Proofs.Redrawing
import MaskedInput.Proofs.Reformatting
import MaskedInput.Proofs.Refusal
import MaskedInput.Proofs.Repair
import MaskedInput.Proofs.Service
import MaskedInput.Proofs.Startup
import MaskedInput.Proofs.Turns
import MaskedInput.Proofs.Typing
import MaskedInput.Proofs.Undoing
import MaskedInput.Proofs.Zipper
