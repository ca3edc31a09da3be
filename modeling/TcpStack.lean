import TcpStack.Proofs.Delivery
import TcpStack.Proofs.WindowAgreement
import TcpStack.Proofs.Interleaving
import TcpStack.Proofs.Acknowledging
import TcpStack.Proofs.SingleFin
import TcpStack.Proofs.Timers
import TcpStack.Proofs.RecvBase
import TcpStack.Proofs.Reordering
import TcpStack.Proofs.Descriptors
import TcpStack.Proofs.Ports
import TcpStack.Proofs.TracedHost
import TcpStack.Proofs.RefusedFin
import TcpStack.Proofs.CongestionControl
import TcpStack.Proofs.Rotation
import TcpStack.Proofs.ReceivePipeline
import TcpStack.Proofs.FailedConnect
import TcpStack.Proofs.OpenFileIds
import TcpStack.Proofs.RoundTrip
import TcpStack.Proofs.Capacity
import TcpStack.Proofs.Packetising
import TcpStack.Proofs.SyncPackets
import TcpStack.Proofs.ProcessCalls
import TcpStack.Proofs.LiveListeners
import TcpStack.Proofs.StackDelivery
import TcpStack.Proofs.StackHost
import TcpStack.Proofs.StopSettles
import TcpStack.Proofs.Echo
import TcpStack.Proofs.NeverStuck
