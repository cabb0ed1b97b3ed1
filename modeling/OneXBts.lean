import OneXBts.Common.LongCode
import OneXBts.Common.Paging
import OneXBts.Packet.Fcs
import OneXBts.Packet.Rlp3Progress
import OneXBts.Packet.Rlp3Delivery
import OneXBts.Packet.Rlp3Rexmit
import OneXBts.Packet.Rlp3SeqHi
import OneXBts.Packet.RlpTotality
import OneXBts.Packet.RlpWindow
import OneXBts.Packet.VjLossless
import OneXBts.Packet.LcpOpen
import OneXBts.Packet.IpcpOpen
import OneXBts.Packet.IpQuarantine
import OneXBts.An.RlpReceiverDelivery
import OneXBts.An.A8Repair
import OneXBts.An.SlpDSender
import OneXBts.Bsc.DuplicateDetection
import OneXBts.Bts.SymbolRepeat
import OneXBts.Bts.ViterbiClean
import OneXBts.Bts.LacT4m
import OneXBts.Bts.LacSegmentation
import OneXBts.Bts.TrafficArqOrder
import OneXBts.Bts.HarqPurge
import OneXBts.Bts.ForwardContinuation
import OneXBts.Bts.ForwardFifo
import OneXBts.Hlr.Primality
import OneXBts.Hlr.CaveRepository
import OneXBts.Msc.OtaspCommitKey
import OneXBts.Msc.OtaspRecords
import OneXBts.Msc.HeldRelease
