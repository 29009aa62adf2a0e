import MaskedList.Json.Record
import MaskedList.Main
import MaskedList.Network.Planned
import MaskedList.Network.Scripted
import MaskedList.Proofs.Items.Lines
import MaskedList.Proofs.Items.Padding
import MaskedList.Proofs.Items.SizeCheck
import MaskedList.Proofs.Response
import MaskedList.Proofs.Session.Deadline
import MaskedList.Proofs.Session.LateDestroy
import MaskedList.Proofs.Session.Pairing
import MaskedList.Proofs.Session.Race
import MaskedList.Proofs.Session.Replies
import MaskedList.Proofs.Session.Separation
import MaskedList.Proofs.Session.Statuses
import MaskedList.Proofs.Store.Effect
import MaskedList.Proofs.Store.Selection
import MaskedList.Proofs.Store.Sorted
import MaskedList.Proofs.Stream.Limit
import MaskedList.Session.Calls
