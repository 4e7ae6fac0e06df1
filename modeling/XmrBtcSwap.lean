import XmrBtcSwap.MoneroAdaptor.Backend
import XmrBtcSwap.MoneroAdaptor.Clsag
import XmrBtcSwap.MoneroAdaptor.Dleq
import XmrBtcSwap.MoneroAdaptor.Protocol
import XmrBtcSwap.MoneroAdaptor.Completeness
import XmrBtcSwap.MoneroAdaptor.Malicious
import XmrBtcSwap.MoneroAdaptor.Binding
import XmrBtcSwap.Swap.Cli
