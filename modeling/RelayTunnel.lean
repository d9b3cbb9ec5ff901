import RelayTunnel.Main
import RelayTunnel.Proofs.Accounts
import RelayTunnel.Proofs.Acknowledgement
import RelayTunnel.Proofs.Admission
import RelayTunnel.Proofs.Aftermath
import RelayTunnel.Proofs.Custody
import RelayTunnel.Proofs.Delays
import RelayTunnel.Proofs.Delivery
import RelayTunnel.Proofs.EndOfFile
import RelayTunnel.Proofs.Exchange
import RelayTunnel.Proofs.Farewell
import RelayTunnel.Proofs.Feed
import RelayTunnel.Proofs.Overriding
import RelayTunnel.Proofs.Precedence
import RelayTunnel.Proofs.Receipts
import RelayTunnel.Proofs.Recovery
import RelayTunnel.Proofs.Service
import RelayTunnel.Proofs.Sizes
import RelayTunnel.Proofs.Tally
import RelayTunnel.Proofs.Transcript
import RelayTunnel.Proofs.Upgrade
import RelayTunnel.Proofs.Window
import RelayTunnel.Proofs.Wire
import RelayTunnel.Proofs.Writing
import RelayTunnel.Rehearsal
import RelayTunnel.Relaying
import RelayTunnel.Session
import RelayTunnel.Traffic.Exposition
import RelayTunnel.Tunnel.Lifetime
import RelayTunnel.WebSocket.Message
import RelayTunnel.WebSocket.Upgrade
