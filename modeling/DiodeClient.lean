import DiodeClient.Rlp.Basic
import DiodeClient.Rlp.Stream
import DiodeClient.Rlp.Lemmas
import DiodeClient.Rlp.Fails
import DiodeClient.Go.Strings
import DiodeClient.Go.Lemmas
import DiodeClient.Rlp.Sound
import DiodeClient.Util.Hex
import DiodeClient.Util.Lemmas
import DiodeClient.Crypto.Keys
import DiodeClient.Crypto.Lemmas
import DiodeClient.Edge.Types
import DiodeClient.Edge.Messages
import DiodeClient.Edge.Protocol
import DiodeClient.Edge.Lemmas.Messages
import DiodeClient.Edge.Lemmas.Tunnel
import DiodeClient.Edge.Lemmas.Error
import DiodeClient.Edge.Lemmas.Ticket
import DiodeClient.Edge.Lemmas.Requests
import DiodeClient.Edge.Lemmas.Dispatch
import DiodeClient.Edge.Lemmas.Canonical
import DiodeClient.Edge.Lemmas.Inbound
import DiodeClient.Edge.Lemmas.Replies
import DiodeClient.Edge.Lemmas.Misrouted
import DiodeClient.Edge.Lemmas.State
