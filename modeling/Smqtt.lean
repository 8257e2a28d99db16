import Smqtt.Proof.Decoder
import Smqtt.Proof.Receive
import Smqtt.Proof.Deadlock
import Smqtt.Proof.SendOrder
import Smqtt.Proof.Correlation
import Smqtt.Proof.Inbound
import Smqtt.Proof.Callbacks
import Smqtt.NetworkServer
import Smqtt.Proof.Connect
import Smqtt.Proof.Agreement
import Smqtt.Proof.Framing
import Smqtt.Proof.Release
import Smqtt.Proof.SameFrames
import Smqtt.Proof.Uninitialised
import Smqtt.Proof.Robustness
import Smqtt.Proof.PacketIds
import Smqtt.Proof.Shutdown
import Smqtt.Proof.Freshness
import Smqtt.Proof.ConnectRequest
import Smqtt.Proof.Capacity
import Smqtt.Proof.Bounds
import Smqtt.Proof.Handshake
import Smqtt.Proof.Receipt
import Smqtt.Proof.InPlace
import Smqtt.Proof.AckQueue
import Smqtt.Proof.CommandLine
import Smqtt.Proof.LengthCodec
import Smqtt.Proof.Streams
import Smqtt.Proof.Latency
import Smqtt.Proof.AtMostOnce
import Smqtt.Proof.Tool
import Smqtt.Proof.ToolNetwork
import Smqtt.Proof.Provenance
import Smqtt.Proof.Subscriber
