import SchedulerLink.Channel.Failure

/-!
Numbered faults of a transfer over a network, and the channel failures that they amount to.
-/

namespace SchedulerLink

structure TransferFault where
  code : Nat
  deriving DecidableEq, Repr

namespace TransferFault

def unsupportedProtocol : TransferFault := ⟨1⟩
def badUrl : TransferFault := ⟨3⟩
def proxyNotFound : TransferFault := ⟨5⟩
def hostNotFound : TransferFault := ⟨6⟩
def notConnected : TransferFault := ⟨7⟩
def badReply : TransferFault := ⟨8⟩
def cutShort : TransferFault := ⟨18⟩
def readFault : TransferFault := ⟨26⟩
def timedOut : TransferFault := ⟨28⟩
def secureConnect : TransferFault := ⟨35⟩
def tooManyRedirects : TransferFault := ⟨47⟩
def noReply : TransferFault := ⟨52⟩
def sendFault : TransferFault := ⟨55⟩
def receiveFault : TransferFault := ⟨56⟩
def badEncoding : TransferFault := ⟨61⟩
def cutText : TransferFault := ⟨75⟩

def description (fault : TransferFault) : String :=
  if fault = unsupportedProtocol then "Unsupported protocol"
  else if fault = badUrl then "URL using bad/illegal format or missing URL"
  else if fault = hostNotFound then "Could not resolve hostname"
  else if fault = notConnected then "Could not connect to server"
  else if fault = badReply then "Weird server reply"
  else if fault = cutShort then "Transferred a partial file"
  else if fault = timedOut then "Timeout was reached"
  else if fault = tooManyRedirects then "Number of redirects hit maximum amount"
  else if fault = noReply then "Server returned nothing (no headers, no data)"
  else if fault = receiveFault then "Failure when receiving data from the peer"
  else if fault = cutText then "Conversion failed"
  else if fault = badEncoding then "Unrecognized or bad HTTP Content or Transfer-Encoding"
  else "Transfer failed"

def text (fault : TransferFault) : String := s!"[{fault.code}] {fault.description}"

def connectionFaults : List TransferFault :=
  [notConnected, hostNotFound, proxyNotFound, secureConnect, readFault, receiveFault, sendFault,
    noReply]

/-- The channel failure that a fault amounts to. -/
def failure (fault : TransferFault) : ChannelFailure :=
  if fault = timedOut then .timedOut fault.text
  else if fault = badUrl ∨ fault = unsupportedProtocol then .badAddress fault.text
  else if fault ∈ connectionFaults then .notOpen fault.text
  else .unknown fault.text

end TransferFault

end SchedulerLink
