import MiniVpn.Go.Runtime

/-! # The ICMP pinger

`extras.Pinger` pings a host through the tunnel. `Run` dials the VPN, then for each of `Count`
rounds writes an ICMP echo request, reads one packet back into a 1500-byte buffer and hands it to
`parseEchoReply`, which records the round-trip time and the TTL of the reply when it comes from
the pinged host, to this end of the tunnel, with this pinger's id. `Stop` prints the statistics.

The packets are built and decoded by `gopacket`, which is not among the sources: the bytes of
`newIcmpData` are not modelled, only the outcome of writing them, and the decoding parser is a
parameter that yields the decoded layer types and the header fields `parseEchoReply` reads. What
the network does in each round is a `Round`. Times are recorded as whole microseconds,
`du/time.Microsecond`. The float32 arithmetic that turns them into milliseconds and the rtt
statistics of `printStats`, and the `%.3f` formatting of these, are abstract operations
(`Float32Ops`), through which the two loops of `printStats` are written in the source's order.
The sleep between rounds, the log lines and the reply line `parseEchoReply` prints are left out.
-/

namespace MiniVpn.Extras

/-- The `gopacket.LayerType`s the decoding parser is built with. -/
inductive LayerType where
  | ipv4
  | icmpv4
  | udp
  | payload
  deriving DecidableEq, Repr

/-- What `parser.DecodeLayers` yields: the layer types it decoded, in order, and the fields of
the `ip` and `icmp` layers that `parseEchoReply` reads, addresses as their `String()`. -/
structure Decoded where
  layers : List LayerType
  srcIP : String
  dstIP : String
  ttl : UInt8
  id : UInt16
  deriving DecidableEq

/-- `st`: the stats of one reply, its round-trip time in microseconds (from which `rtt` is made)
and its TTL. -/
structure St where
  rtt : Nat
  ttl : UInt8
  deriving DecidableEq

/-- The fields of `Pinger` that `Run`, `parseEchoReply` and `printStats` read or write. -/
structure Pinger where
  host : String
  /-- `Count`. -/
  count : Int
  /-- `ID`. -/
  id : Nat
  st : List St
  packetsSent : Nat
  packetsRecv : Nat
  deriving DecidableEq

/-- `NewPinger(rawDialer, host, count)` in the process of id `pid`. -/
def newPinger (pid : Nat) (host : String) (count : Int) : Pinger :=
  { host := host, count := count, id := pid &&& 0xffff, st := [], packetsSent := 0,
    packetsRecv := 0 }

/-! ## `parseEchoReply` -/

/-- One case of the `for _, layerType := range decoded` loop of `parseEchoReply`: whether it goes
on to the next layer rather than return. The IPv4 header must be addressed to `dst` and come from
the pinged host; the ICMPv4 header must carry this pinger's id. -/
def Pinger.checkLayer (p : Pinger) (dst : String) (decoded : Decoded) : LayerType → Bool
  | .ipv4 => decoded.dstIP == dst && decoded.srcIP == p.host
  | .icmpv4 => decoded.id == UInt16.ofNat p.id
  | _ => true

/-- Decoding `d` and the checks of `parseEchoReply`: the TTL of the reply's IPv4 header when it
gets past them. -/
def Pinger.echoReply (decode : Bytes → Except GoError Decoded) (p : Pinger) (d : Bytes)
    (dst : String) : Option UInt8 :=
  match decode d with
  | .error _ => none
  | .ok decoded => if decoded.layers.all (p.checkLayer dst decoded) then some decoded.ttl else none

/-- `parseEchoReply(d, dst, start, end)`, `elapsed` being `end.Sub(start)` in microseconds. -/
def Pinger.parseEchoReply (decode : Bytes → Except GoError Decoded) (p : Pinger) (d : Bytes)
    (dst : String) (elapsed : Nat) : Pinger :=
  match p.echoReply decode d dst with
  | none => p
  | some ttl => { p with st := p.st ++ [⟨elapsed, ttl⟩] }

/-! ## `Run` -/

/-- What the network does in one round of `Run`'s loop. -/
structure Round where
  /-- The error of `conn.Write(ipck)`. -/
  write : Option GoError
  /-- What `conn.Read(buf)` reads, or its error. -/
  read : Except GoError Bytes
  /-- `end.Sub(start)` in microseconds. -/
  elapsed : Nat
  deriving DecidableEq

/-- `buf := make([]byte, 1500)` after `conn.Read(buf)` read `received` into it. -/
def replyBuffer (received : Bytes) : Bytes :=
  goCopy (List.replicate 1500 0) received

/-- One iteration of `Run`'s loop, with `dst = conn.LocalAddr().String()`: the error it returns
with, if any, and the pinger after it. -/
def Pinger.round (decode : Bytes → Except GoError Decoded) (dst : String) (r : Round)
    (p : Pinger) : Option GoError × Pinger :=
  match r.write with
  | some err => (some err, p)
  | none =>
    let p := { p with packetsSent := p.packetsSent + 1 }
    match r.read with
    | .error err => (some err, p)
    | .ok received =>
      let p := { p with packetsRecv := p.packetsRecv + 1 }
      (none, p.parseEchoReply decode (replyBuffer received) dst r.elapsed)

/-- Rounds `i`, `i + 1`, ... of `Run`'s loop, `n` of them left, the network doing `net i` in
round `i`. -/
def Pinger.runRounds (decode : Bytes → Except GoError Decoded) (dst : String)
    (net : Nat → Round) : Nat → Nat → Pinger → Option GoError × Pinger
  | _, 0, p => (none, p)
  | i, n + 1, p =>
    match p.round decode dst (net i) with
    | (some err, p) => (some err, p)
    | (none, p) => Pinger.runRounds decode dst net (i + 1) n p

/-- `Run()`, `dial` being what `p.raw.Dial()` returns: the local address of the tunnel's
connection, or the error. -/
def Pinger.run (p : Pinger) (decode : Bytes → Except GoError Decoded)
    (dial : Except GoError String) (net : Nat → Round) : Option GoError × Pinger :=
  match dial with
  | .error err => (some err, p)
  | .ok dst => Pinger.runRounds decode dst net 0 p.count.toNat p

/-! ## `Stop` -/

/-- The line `printStats` starts with. -/
def statsHeader (host : String) : String :=
  "--- " ++ host ++ " ping statistics ---"

/-- `fmt.Printf("%d packets transmitted, %d received, %d%% packet loss\n", ...)`. -/
def countsLine (sent recv loss : Nat) : String :=
  toString sent ++ " packets transmitted, " ++ toString recv ++ " received, " ++ toString loss ++
    "% packet loss"

/-- `loss := (p.packetsRecv / p.packetsSent) / 100`, in Go's integer division. -/
def Pinger.loss (p : Pinger) : Nat :=
  p.packetsRecv / p.packetsSent / 100

/-- The float32 operations `printStats` computes with, left abstract: the conversion `float32(n)`
of an integer, `+`, `-`, `/` and `<` on float32, `float32(math.Pow(float64(x), 2))`,
`float32(math.Sqrt(float64(x)))`, and the `%.3f` verb of `fmt.Printf`. -/
structure Float32Ops (F : Type) where
  ofNat : Nat → F
  add : F → F → F
  sub : F → F → F
  div : F → F → F
  lt : F → F → Bool
  pow2 : F → F
  sqrt : F → F
  format : F → String

section Float32

variable {F : Type} (ops : Float32Ops F)

/-- `s.rtt`: `float32(du/time.Microsecond) / 1000`, as `parseEchoReply` makes it of the
microseconds. -/
def Float32Ops.rtt (s : St) : F :=
  ops.div (ops.ofNat s.rtt) (ops.ofNat 1000)

/-- One iteration of the first loop of `printStats`: `sum += s.rtt`, then `min` and `max`. -/
def Float32Ops.scan (acc : F × F × F) (s : St) : F × F × F :=
  let (sum, min, max) := acc
  let rtt := ops.rtt s
  (ops.add sum rtt, if ops.lt rtt min then rtt else min, if ops.lt max rtt then rtt else max)

/-- The `rtt min/avg/max/stdev` line of `printStats` over `p.st = first :: rest`: `min` starts at
`p.st[0].rtt`, `sum`, `max` and `sd` at float32's zero, and `len(r)` is the number of stats. -/
def rttLine (first : St) (rest : List St) : String :=
  let stats := first :: rest
  let (sum, min, max) := stats.foldl ops.scan (ops.ofNat 0, ops.rtt first, ops.ofNat 0)
  let avg := ops.div sum (ops.ofNat stats.length)
  let sd := stats.foldl (fun sd s => ops.add sd (ops.pow2 (ops.sub (ops.rtt s) avg))) (ops.ofNat 0)
  let sd := ops.sqrt (ops.div sd (ops.ofNat stats.length))
  "rtt min/avg/max/stdev = " ++ ops.format min ++ ", " ++ ops.format avg ++ ", " ++
    ops.format max ++ ", " ++ ops.format sd ++ " ms"

/-- `printStats()`: the lines it prints, and its panic. With no stats recorded, `min = p.st[0].rtt`
is out of range. -/
def Pinger.printStats (p : Pinger) : List String × Option Fault :=
  if p.packetsSent = 0 then ([], none)
  else match p.st with
    | [] => ([statsHeader p.host], some (.panic "index out of range [0] with length 0"))
    | first :: rest =>
      ([statsHeader p.host, countsLine p.packetsSent p.packetsRecv p.loss, rttLine ops first rest],
        none)

/-- `Stop()`. -/
def Pinger.stop (p : Pinger) : List String × Option Fault :=
  p.printStats ops

end Float32

end MiniVpn.Extras
