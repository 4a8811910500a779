import ConnectionTopology.Collectors.Linux
import ConnectionTopology.Library.Machine

/-!
# Reading the output of a remote command

`LinuxCollector._execute`: the polling loop reads what the SSH channel has buffered, while the
transport thread delivers data, the exit status, EOF and the close in any order. The loop stops
at a closed channel. After a close by the remote side the output is complete, but a lost
transport closes the channel too, and an exit status that came before the loss is kept.
-/
namespace ConnectionTopology

/-! ## The channel -/

/-- One output stream of the remote command. `pending` is written and not delivered yet. -/
structure ChannelStream where
  pending : List UInt8
  buffer : List UInt8 := []
  deriving DecidableEq, Repr

namespace ChannelStream

def deliver (s : ChannelStream) (size : ℕ) : ChannelStream where
  pending := s.pending.drop size
  buffer := s.buffer ++ s.pending.take size

/-- `recv_ready`. -/
def ready (s : ChannelStream) : Bool := s.buffer ≠ []

/-- The chunk that `recv(65536)` returns. -/
def chunk (s : ChannelStream) : List UInt8 := s.buffer.take 65536

/-- What `recv(65536)` leaves. -/
def rest (s : ChannelStream) : ChannelStream := { s with buffer := s.buffer.drop 65536 }

end ChannelStream

structure Channel where
  stdout : ChannelStream
  stderr : ChannelStream
  exitStatus : Option ℤ := none
  eofReceived : Bool := false
  closed : Bool := false
  deriving DecidableEq, Repr

/-- What reaches the channel from the transport. -/
inductive ChannelEvent
  | stdout (size : ℕ)
  | stderr (size : ℕ)
  | exitStatus (code : ℤ)
  | eof
  | close
  | lose
  deriving DecidableEq, Repr

namespace Channel

def exitStatusReady (c : Channel) : Bool := c.closed || c.exitStatus.isSome

/-- A closed channel delivers nothing more. EOF comes after all data, a close by the remote
side after EOF, and a loss at any time. -/
def receive (c : Channel) (event : ChannelEvent) : Option Channel :=
  if c.closed then none
  else
    match event with
    | .stdout size => some { c with stdout := c.stdout.deliver size }
    | .stderr size => some { c with stderr := c.stderr.deliver size }
    | .exitStatus code =>
      if c.exitStatus.isSome then none else some { c with exitStatus := some code }
    | .eof =>
      if c.stdout.pending = [] ∧ c.stderr.pending = [] then some { c with eofReceived := true }
      else none
    | .close => if c.eofReceived then some { c with closed := true } else none
    | .lose => some { c with closed := true }

end Channel

/-! ## The program -/

def commandTimeout : CollectorError := ⟨"command_timeout", "远程 ss 命令执行超时"⟩

def commandFailed : CollectorError := ⟨"command_failed", "无法执行远程 ss 命令"⟩

/-- What `exec_command` does. -/
inductive ExecOutcome
  | opened
  | timeoutError
  | sshException
  deriving DecidableEq, Repr

/-- The exit code and the decoded output. -/
abbrev ExecuteResult := Except CollectorError (ℤ × String × String)

inductive ExecutePoint
  | exec
  | readOut
  | readErr
  | testClosed
  | testStatus
  | testEof
  | drainOut
  | drainErr
  | testDeadline
  | sleep
  | recvExitStatus
  | done (result : ExecuteResult)

/-- A call of `_execute` with its channel. -/
structure ExecuteState where
  channel : Channel
  point : ExecutePoint := .exec
  deadline : ℕ := 0
  outputChunks : List (List UInt8) := []
  errorChunks : List (List UInt8) := []

inductive ExecuteAction
  | exec (outcome : ExecOutcome) (now : ℕ)
  /-- The next step of the program; `now` is the clock, if it looks at it. -/
  | program (now : ℕ)
  | channel (event : ChannelEvent)
  deriving DecidableEq, Repr

namespace ExecuteState

/-- A call for a command that writes `out` and `err`. -/
def start (out err : List UInt8) : ExecuteState where
  channel := { stdout := ⟨out, []⟩, stderr := ⟨err, []⟩ }

def raise (s : ExecuteState) (e : CollectorError) : ExecuteState := { s with point := .done (.error e) }

/-- `channel.close()` in front of the `CollectorError`. -/
def timeOut (s : ExecuteState) : ExecuteState :=
  { s with channel := { s.channel with closed := true } }.raise commandTimeout

/-- `while channel.recv_ready()`: another chunk, or on to the next point. -/
def readOut (s : ExecuteState) (next : ExecutePoint) : ExecuteState :=
  if s.channel.stdout.ready then
    { s with
      outputChunks := s.outputChunks ++ [s.channel.stdout.chunk]
      channel := { s.channel with stdout := s.channel.stdout.rest } }
  else { s with point := next }

/-- `while channel.recv_stderr_ready()`. -/
def readErr (s : ExecuteState) (next : ExecutePoint) : ExecuteState :=
  if s.channel.stderr.ready then
    { s with
      errorChunks := s.errorChunks ++ [s.channel.stderr.chunk]
      channel := { s.channel with stderr := s.channel.stderr.rest } }
  else { s with point := next }

/-- One step of the program; `recv_exit_status` waits for the status or the close. -/
def programStep (decode : List UInt8 → String) (s : ExecuteState) (now : ℕ) : Option ExecuteState :=
  match s.point with
  | .exec => none
  | .readOut => some (s.readOut .readErr)
  | .readErr => some (s.readErr .testClosed)
  | .testClosed => some { s with point := if s.channel.closed then .drainOut else .testStatus }
  | .testStatus =>
    some { s with point := if s.channel.exitStatusReady then .testEof else .testDeadline }
  | .testEof => some { s with point := if s.channel.eofReceived then .drainOut else .testDeadline }
  | .drainOut => some (s.readOut .drainErr)
  | .drainErr => some (s.readErr .recvExitStatus)
  | .testDeadline => some (if s.deadline ≤ now then s.timeOut else { s with point := .sleep })
  | .sleep => some { s with point := .readOut }
  | .recvExitStatus =>
    if s.channel.exitStatusReady then
      some { s with point := .done (.ok (s.channel.exitStatus.getD (-1),
        decode s.outputChunks.flatten, decode s.errorChunks.flatten)) }
    else none
  | .done _ => none

def step (decode : List UInt8 → String) (timeout : ℕ) (s : ExecuteState) :
    ExecuteAction → Option ExecuteState
  | .exec outcome now =>
    match s.point with
    | .exec =>
      match outcome with
      | .opened => some { s with point := .readOut, deadline := now + timeout }
      | .timeoutError => some (s.raise commandTimeout)
      | .sshException => some (s.raise commandFailed)
    | _ => none
  | .program now => s.programStep decode now
  | .channel event =>
    match s.point with
    | .exec => none
    | _ => (s.channel.receive event).map fun c => { s with channel := c }

end ExecuteState

/-! ## What is known at each point -/

namespace ExecutePoint

/-- The loop has stopped at a closed channel or at EOF. -/
def stopped : ExecutePoint → Bool
  | .drainOut | .drainErr | .recvExitStatus | .done (.ok _) => true
  | _ => false

/-- The buffered output has been read after the loop has stopped. -/
def drained : ExecutePoint → Bool
  | .drainErr | .recvExitStatus | .done (.ok _) => true
  | _ => false

theorem stopped_of_drained {point : ExecutePoint} (h : point.drained = true) :
    point.stopped = true := by
  cases point with
  | drainErr | recvExitStatus => rfl
  | done result =>
    cases result with
    | ok output => rfl
    | error e => cases h
  | _ => cases h

end ExecutePoint

/-- Every byte of the output is read, buffered or on its way, and none is on its way after
EOF. -/
structure ExecutionOk (decode : List UInt8 → String) (written : List UInt8) (s : ExecuteState) :
    Prop where
  whole : s.outputChunks.flatten ++ s.channel.stdout.buffer ++ s.channel.stdout.pending = written
  eof : s.channel.eofReceived = true → s.channel.stdout.pending = []
  stopped : s.point.stopped = true → s.channel.closed = true ∨ s.channel.eofReceived = true
  drained : s.point.drained = true → s.channel.stdout.buffer = []
  testEof : s.point = .testEof → s.channel.exitStatusReady = true
  result : ∀ code out err, s.point = .done (.ok (code, out, err)) →
    s.channel.exitStatus.getD (-1) = code ∧ s.channel.exitStatusReady = true ∧
      out = decode s.outputChunks.flatten

variable {decode : List UInt8 → String} {written : List UInt8}

theorem executionOk_start (err : List UInt8) : ExecutionOk decode written (.start written err) := by
  constructor
  case whole => rfl
  case eof => exact fun h => by cases h
  case stopped => exact fun h => by cases h
  case drained => exact fun h => by cases h
  case testEof => exact fun h => by cases h
  case result => exact fun _ _ _ h => by cases h

/-! ## The channel -/

/-- What an event leaves of the channel. -/
structure Channel.Later (c d : Channel) : Prop where
  open_ : c.closed = false
  stdout : ∃ size, d.stdout = c.stdout.deliver size
  eof : d.eofReceived = true → c.eofReceived = true ∨ d.stdout.pending = []
  eof_mono : c.eofReceived = true → d.eofReceived = true
  exitStatus : c.exitStatus.isSome = true → d.exitStatus = c.exitStatus

theorem ChannelStream.deliver_zero (s : ChannelStream) : s.deliver 0 = s := by
  simp [ChannelStream.deliver]

theorem Channel.receive_later {c d : Channel} {event : ChannelEvent}
    (h : c.receive event = some d) : c.Later d := by
  have hself : ∃ size, c.stdout = c.stdout.deliver size := ⟨0, c.stdout.deliver_zero.symm⟩
  have hopen : c.closed = false := by
    by_contra hclosed
    simp [Channel.receive, Bool.not_eq_false _ ▸ hclosed] at h
  unfold Channel.receive at h
  rw [hopen, if_neg Bool.false_ne_true] at h
  cases event with
  | stdout size =>
    cases h
    exact ⟨hopen, ⟨size, rfl⟩, Or.inl, id, fun _ => rfl⟩
  | stderr size =>
    cases h
    exact ⟨hopen, hself, Or.inl, id, fun _ => rfl⟩
  | exitStatus code =>
    dsimp only at h
    split_ifs at h with hsome
    cases h
    exact ⟨hopen, hself, Or.inl, id, fun hs => absurd hs hsome⟩
  | eof =>
    dsimp only at h
    split_ifs at h with hpending
    cases h
    exact ⟨hopen, hself, fun _ => Or.inr hpending.1, fun _ => rfl, fun _ => rfl⟩
  | close =>
    dsimp only at h
    split_ifs at h with heof
    cases h
    exact ⟨hopen, hself, Or.inl, id, fun _ => rfl⟩
  | lose =>
    cases h
    exact ⟨hopen, hself, Or.inl, id, fun _ => rfl⟩

/-- With nothing on its way the buffer stays as it is. -/
theorem ChannelStream.deliver_of_pending {s : ChannelStream} (h : s.pending = []) (size : ℕ) :
    s.deliver size = s := by
  cases s
  simp only [ChannelStream.deliver] at h ⊢
  subst h
  simp

theorem ExecutionOk.receive {s : ExecuteState} (h : ExecutionOk decode written s) {d : Channel}
    (hd : s.channel.Later d) : ExecutionOk decode written { s with channel := d } := by
  obtain ⟨size, hstdout⟩ := hd.stdout
  -- the buffer of a stopped loop gets nothing more
  have hsame : s.point.stopped = true → d.stdout = s.channel.stdout := by
    intro hstopped
    have heof := (h.stopped hstopped).resolve_left (by simp [hd.open_])
    rw [hstdout, ChannelStream.deliver_of_pending (h.eof heof)]
  have hready : s.channel.exitStatusReady = true → s.channel.exitStatus.isSome = true := by
    simp [Channel.exitStatusReady, hd.open_]
  have hlater : s.channel.exitStatusReady = true → d.exitStatusReady = true := by
    intro hs
    simp [Channel.exitStatusReady, hd.exitStatus (hready hs), hready hs]
  constructor
  case whole =>
    rw [hstdout, ← h.whole]
    simp [ChannelStream.deliver]
  case eof =>
    intro heof
    rcases hd.eof heof with heof | hpending
    · rw [hstdout, ChannelStream.deliver_of_pending (h.eof heof)]
      exact h.eof heof
    · exact hpending
  case stopped =>
    intro hstopped
    exact Or.inr (hd.eof_mono ((h.stopped hstopped).resolve_left (by simp [hd.open_])))
  case drained =>
    intro hdrained
    change d.stdout.buffer = []
    rw [hsame (ExecutePoint.stopped_of_drained hdrained)]
    exact h.drained hdrained
  case testEof => exact fun hpoint => hlater (h.testEof hpoint)
  case result =>
    intro code out err hpoint
    obtain ⟨hcode, hcodeReady, hout⟩ := h.result code out err hpoint
    exact ⟨by rw [hd.exitStatus (hready hcodeReady), hcode], hlater hcodeReady, hout⟩

/-! ## The program -/

theorem ChannelStream.chunk_append_rest (s : ChannelStream) : s.chunk ++ s.rest.buffer = s.buffer :=
  List.take_append_drop _ _

/-- The call goes on at another point with what it has read so far. -/
theorem ExecutionOk.goto {s : ExecuteState} (h : ExecutionOk decode written s) {next : ExecutePoint}
    (hstopped : next.stopped = true → s.channel.closed = true ∨ s.channel.eofReceived = true)
    (hdrained : next.drained = true → s.channel.stdout.buffer = [])
    (htest : next = .testEof → s.channel.exitStatusReady = true)
    (hresult : ∀ result, next ≠ .done (.ok result)) :
    ExecutionOk decode written { s with point := next } := by
  constructor
  case whole => exact h.whole
  case eof => exact h.eof
  case stopped => exact hstopped
  case drained => exact hdrained
  case testEof => exact htest
  case result => exact fun code out err hdone => absurd hdone (hresult _)

/-- At most points only the bytes are accounted for. -/
theorem ExecutionOk.elsewhere {s t : ExecuteState} (h : ExecutionOk decode written s)
    (hchunks : t.outputChunks = s.outputChunks) (hstdout : t.channel.stdout = s.channel.stdout)
    (heof : t.channel.eofReceived = s.channel.eofReceived) (hpoint : t.point.stopped = false)
    (htest : t.point ≠ .testEof) : ExecutionOk decode written t := by
  constructor
  case whole =>
    rw [hchunks, hstdout]
    exact h.whole
  case eof =>
    rw [heof, hstdout]
    exact h.eof
  case stopped =>
    intro hstopped
    rw [hpoint] at hstopped
    cases hstopped
  case drained =>
    intro hdrained
    rw [ExecutePoint.stopped_of_drained hdrained] at hpoint
    cases hpoint
  case testEof => exact fun heq => absurd heq htest
  case result =>
    intro code out err hdone
    rw [hdone] at hpoint
    cases hpoint

/-- Another chunk is read before the buffer is known to be empty. -/
theorem ExecutionOk.readChunk {s : ExecuteState} (h : ExecutionOk decode written s)
    (hdrained : s.point.drained = false) :
    ExecutionOk decode written { s with
      outputChunks := s.outputChunks ++ [s.channel.stdout.chunk]
      channel := { s.channel with stdout := s.channel.stdout.rest } } := by
  constructor
  case whole =>
    have hbuffer := s.channel.stdout.chunk_append_rest
    rw [← h.whole, ← hbuffer]
    simp [ChannelStream.rest]
  case eof => exact h.eof
  case stopped => exact h.stopped
  case drained =>
    intro hpoint
    rw [hdrained] at hpoint
    cases hpoint
  case testEof => exact h.testEof
  case result =>
    intro code out err hdone
    rw [hdone] at hdrained
    cases hdrained

/-- What is read from the other stream does not matter. -/
theorem ExecutionOk.readErrChunk {s : ExecuteState} (h : ExecutionOk decode written s) :
    ExecutionOk decode written { s with
      errorChunks := s.errorChunks ++ [s.channel.stderr.chunk]
      channel := { s.channel with stderr := s.channel.stderr.rest } } :=
  ⟨h.whole, h.eof, h.stopped, h.drained, h.testEof, h.result⟩

theorem ExecutionOk.programStep {s t : ExecuteState} (h : ExecutionOk decode written s) {now : ℕ}
    (hstep : s.programStep decode now = some t) : ExecutionOk decode written t := by
  have hpast : ∀ {next : ExecutePoint}, next.stopped = false → next ≠ .testEof →
      ExecutionOk decode written { s with point := next } :=
    fun hnext htest => h.elsewhere rfl rfl rfl hnext htest
  unfold ExecuteState.programStep at hstep
  cases hpoint : s.point with
  | exec => simp [hpoint] at hstep
  | readOut =>
    simp only [hpoint, Option.some.injEq] at hstep
    subst hstep
    unfold ExecuteState.readOut
    split_ifs
    · exact h.readChunk (by rw [hpoint]; rfl)
    · exact hpast rfl (by simp)
  | readErr =>
    simp only [hpoint, Option.some.injEq] at hstep
    subst hstep
    unfold ExecuteState.readErr
    split_ifs
    · exact h.readErrChunk
    · exact hpast rfl (by simp)
  | testClosed =>
    simp only [hpoint, Option.some.injEq] at hstep
    subst hstep
    split_ifs with hclosed
    · exact h.goto (fun _ => Or.inl hclosed) (by simp [ExecutePoint.drained]) (by simp) (by simp)
    · exact hpast rfl (by simp)
  | testStatus =>
    simp only [hpoint, Option.some.injEq] at hstep
    subst hstep
    split_ifs with hready
    · exact h.goto (by simp [ExecutePoint.stopped]) (by simp [ExecutePoint.drained])
        (fun _ => hready) (by simp)
    · exact hpast rfl (by simp)
  | testEof =>
    simp only [hpoint, Option.some.injEq] at hstep
    subst hstep
    split_ifs with heof
    · exact h.goto (fun _ => Or.inr heof) (by simp [ExecutePoint.drained]) (by simp) (by simp)
    · exact hpast rfl (by simp)
  | drainOut =>
    simp only [hpoint, Option.some.injEq] at hstep
    subst hstep
    unfold ExecuteState.readOut
    split_ifs with hready
    · exact h.readChunk (by rw [hpoint]; rfl)
    · have hempty : s.channel.stdout.buffer = [] := by simpa [ChannelStream.ready] using hready
      exact h.goto (fun _ => h.stopped (by rw [hpoint]; rfl)) (fun _ => hempty) (by simp) (by simp)
  | drainErr =>
    simp only [hpoint, Option.some.injEq] at hstep
    subst hstep
    unfold ExecuteState.readErr
    split_ifs
    · exact h.readErrChunk
    · exact h.goto (fun _ => h.stopped (by rw [hpoint]; rfl))
        (fun _ => h.drained (by rw [hpoint]; rfl)) (by simp) (by simp)
  | testDeadline =>
    simp only [hpoint, Option.some.injEq] at hstep
    subst hstep
    split_ifs
    · exact h.elsewhere rfl rfl rfl rfl (by simp [ExecuteState.timeOut, ExecuteState.raise])
    · exact hpast rfl (by simp)
  | sleep =>
    simp only [hpoint, Option.some.injEq] at hstep
    subst hstep
    exact hpast rfl (by simp)
  | recvExitStatus =>
    simp only [hpoint] at hstep
    split_ifs at hstep with hready
    cases hstep
    constructor
    case whole => exact h.whole
    case eof => exact h.eof
    case stopped => exact fun _ => h.stopped (by rw [hpoint]; rfl)
    case drained => exact fun _ => h.drained (by rw [hpoint]; rfl)
    case testEof => exact fun htest => by cases htest
    case result =>
      intro code out err hdone
      cases hdone
      exact ⟨rfl, hready, rfl⟩
  | done result => simp [hpoint] at hstep

theorem ExecutionOk.step {timeout : ℕ} {s t : ExecuteState} (h : ExecutionOk decode written s)
    {a : ExecuteAction} (hstep : s.step decode timeout a = some t) :
    ExecutionOk decode written t := by
  cases a with
  | exec outcome now =>
    simp only [ExecuteState.step] at hstep
    split at hstep
    · cases outcome with
      | opened =>
        cases hstep
        exact h.elsewhere rfl rfl rfl rfl (by simp)
      | timeoutError | sshException =>
        cases hstep
        exact h.elsewhere rfl rfl rfl rfl (by simp [ExecuteState.raise])
    · cases hstep
  | program now => exact h.programStep hstep
  | channel event =>
    simp only [ExecuteState.step] at hstep
    split at hstep
    · cases hstep
    · obtain ⟨d, hd, rfl⟩ := Option.map_eq_some_iff.mp hstep
      exact h.receive (Channel.receive_later hd)

/-! ## A loss of the transport -/

/-- A loss that comes after the exit status 0 comes after all output too. -/
def LossAfterOutput (s : ExecuteState) (a : ExecuteAction) : Prop :=
  a = .channel .lose → s.channel.exitStatus = some 0 → s.channel.stdout.pending = []

instance (s : ExecuteState) (a : ExecuteAction) : Decidable (LossAfterOutput s a) :=
  inferInstanceAs (Decidable (_ → _ → _))

/-- The channel is closed with output on its way. -/
def CutOff (s : ExecuteState) : Prop :=
  s.channel.closed = true ∧ s.channel.stdout.pending ≠ []

/-- The program never touches what is on its way, and it closes a channel only to raise. -/
theorem ExecuteState.programStep_channel {s t : ExecuteState} {now : ℕ}
    (hstep : s.programStep decode now = some t) :
    t.channel.stdout.pending = s.channel.stdout.pending ∧
      t.channel.eofReceived = s.channel.eofReceived ∧
      t.channel.exitStatus = s.channel.exitStatus ∧
      (s.channel.closed = true → t.channel.closed = true) ∧
      (t.channel.closed = s.channel.closed ∨ t.point = .done (.error commandTimeout)) := by
  unfold ExecuteState.programStep at hstep
  split at hstep
  case h_1 | h_12 => cases hstep
  case h_2 | h_7 =>
    cases hstep
    unfold ExecuteState.readOut
    split_ifs <;> exact ⟨rfl, rfl, rfl, id, Or.inl rfl⟩
  case h_3 | h_8 =>
    cases hstep
    unfold ExecuteState.readErr
    split_ifs <;> exact ⟨rfl, rfl, rfl, id, Or.inl rfl⟩
  case h_9 =>
    cases hstep
    split_ifs
    · exact ⟨rfl, rfl, rfl, fun _ => rfl, Or.inr rfl⟩
    · exact ⟨rfl, rfl, rfl, id, Or.inl rfl⟩
  case h_11 =>
    split_ifs at hstep
    cases hstep
    exact ⟨rfl, rfl, rfl, id, Or.inl rfl⟩
  all_goals
    cases hstep
    exact ⟨rfl, rfl, rfl, id, Or.inl rfl⟩

theorem CutOff.step {timeout : ℕ} {s t : ExecuteState} (h : CutOff s) {a : ExecuteAction}
    (hstep : s.step decode timeout a = some t) : CutOff t := by
  cases a with
  | exec outcome now =>
    simp only [ExecuteState.step] at hstep
    split at hstep
    · cases outcome <;> cases hstep <;> exact h
    · cases hstep
  | program now =>
    obtain ⟨hpending, -, -, hclosed, -⟩ := ExecuteState.programStep_channel hstep
    refine ⟨hclosed h.1, ?_⟩
    rw [hpending]
    exact h.2
  | channel event =>
    simp only [ExecuteState.step] at hstep
    split at hstep
    · cases hstep
    · obtain ⟨d, hd, -⟩ := Option.map_eq_some_iff.mp hstep
      have hopen := (Channel.receive_later hd).open_
      rw [h.1] at hopen
      cases hopen

/-- A channel that closed with the exit status 0 has delivered all output, unless the call
raises. -/
def ClosedAfterOutput (s : ExecuteState) : Prop :=
  s.channel.closed = true → s.channel.exitStatus = some 0 →
    s.channel.stdout.pending = [] ∨ ∃ e, s.point = .done (.error e)

theorem ClosedAfterOutput.receive {s : ExecuteState} (h : ExecutionOk decode written s)
    {event : ChannelEvent} (hloss : LossAfterOutput s (.channel event)) {d : Channel}
    (hd : s.channel.receive event = some d) : ClosedAfterOutput { s with channel := d } := by
  have hopen := (Channel.receive_later hd).open_
  unfold Channel.receive at hd
  rw [hopen, if_neg Bool.false_ne_true] at hd
  intro hclosed hstatus
  left
  cases event with
  | stdout size | stderr size =>
    cases hd
    cases hclosed
  | exitStatus code =>
    dsimp only at hd
    split_ifs at hd
    cases hd
    cases hclosed
  | eof =>
    dsimp only at hd
    split_ifs at hd
    cases hd
    cases hclosed
  | close =>
    dsimp only at hd
    split_ifs at hd with heof
    cases hd
    exact h.eof heof
  | lose =>
    cases hd
    exact hloss rfl hstatus

theorem ClosedAfterOutput.step {timeout : ℕ} {s t : ExecuteState} (hok : ExecutionOk decode written s)
    (h : ClosedAfterOutput s) {a : ExecuteAction} (hloss : LossAfterOutput s a)
    (hstep : s.step decode timeout a = some t) : ClosedAfterOutput t := by
  cases a with
  | exec outcome now =>
    simp only [ExecuteState.step] at hstep
    split at hstep
    · rename_i hpoint
      have hpending : s.channel.closed = true → s.channel.exitStatus = some 0 →
          s.channel.stdout.pending = [] := by
        intro hclosed hstatus
        rcases h hclosed hstatus with hpending | ⟨e, he⟩
        · exact hpending
        · rw [hpoint] at he
          cases he
      cases outcome <;> cases hstep <;> exact fun hclosed hstatus => Or.inl (hpending hclosed hstatus)
    · cases hstep
  | program now =>
    obtain ⟨hpending, -, hstatus, -, hclosed⟩ := ExecuteState.programStep_channel hstep
    intro htclosed htstatus
    rcases hclosed with hclosed | hraised
    · left
      rw [hclosed] at htclosed
      rw [hstatus] at htstatus
      rw [hpending]
      rcases h htclosed htstatus with hempty | ⟨e, he⟩
      · exact hempty
      · simp [ExecuteState.step, ExecuteState.programStep, he] at hstep
    · exact Or.inr ⟨_, hraised⟩
  | channel event =>
    simp only [ExecuteState.step] at hstep
    split at hstep
    · cases hstep
    · obtain ⟨d, hd, rfl⟩ := Option.map_eq_some_iff.mp hstep
      exact ClosedAfterOutput.receive hok hloss hd

/-! ## Every order of events -/

/-- A run that ends without a cut has only losses that come after the output. -/
theorem meets_of_pending {timeout : ℕ} (actions : List ExecuteAction) {s t : ExecuteState}
    (hrun : Machine.run (ExecuteState.step decode timeout) s actions = some t)
    (hpending : t.channel.stdout.pending = []) :
    Machine.Meets (ExecuteState.step decode timeout) LossAfterOutput s actions := by
  induction actions generalizing s with
  | nil => trivial
  | cons a actions ih =>
    obtain ⟨u, hu, hrest⟩ := Option.bind_eq_some_iff.mp hrun
    constructor
    · rintro rfl hstatus
      by_contra hcut
      have hcutOff : CutOff u := by
        simp only [ExecuteState.step] at hu
        split at hu
        · cases hu
        · obtain ⟨d, hd, rfl⟩ := Option.map_eq_some_iff.mp hu
          simp only [Channel.receive] at hd
          split_ifs at hd
          cases hd
          exact ⟨rfl, hcut⟩
      have hend : CutOff t := Machine.run_invariant CutOff (fun _ _ _ h hs => h.step hs) hcutOff hrest
      exact hend.2 hpending
    · intro v hv
      rw [hu] at hv
      cases hv
      exact ih hrest

/-- In every order of events: with exit code 0 the decoded bytes are those that were read, and
these are all that the command wrote exactly if the transport was not lost between the exit
status and the end of the output. -/
theorem execute_complete_iff (decode : List UInt8 → String) (timeout : ℕ) (written errors : List UInt8)
    (actions : List ExecuteAction) {s : ExecuteState} {out err : String}
    (hrun : Machine.run (ExecuteState.step decode timeout) (.start written errors) actions = some s)
    (hdone : s.point = .done (.ok (0, out, err))) :
    out = decode s.outputChunks.flatten ∧
      (s.outputChunks.flatten = written ↔
        Machine.Meets (ExecuteState.step decode timeout) LossAfterOutput (.start written errors)
          actions) := by
  have hok : ExecutionOk decode written s :=
    Machine.run_invariant (ExecutionOk decode written) (fun _ _ _ h hs => h.step hs)
      (executionOk_start errors) hrun
  obtain ⟨hcode, hready, hout⟩ := hok.result 0 out err hdone
  have hbuffer : s.channel.stdout.buffer = [] := hok.drained (by rw [hdone]; rfl)
  have hread : s.outputChunks.flatten = written ↔ s.channel.stdout.pending = [] := by
    rw [← hok.whole, hbuffer]
    simp
  refine ⟨hout, hread.trans ⟨meets_of_pending actions hrun, ?_⟩⟩
  intro hmeets
  have hclosedOk : ExecutionOk decode written s ∧ ClosedAfterOutput s := by
    refine Machine.run_invariant_of_meets
      (fun s => ExecutionOk decode written s ∧ ClosedAfterOutput s) ?_ actions _ _
      ⟨executionOk_start errors, fun hclosed => by cases hclosed⟩ hmeets hrun
    rintro u a v ⟨hu, hclosed⟩ hloss hstep
    exact ⟨hu.step hstep, hclosed.step hu hloss hstep⟩
  rcases hok.stopped (by rw [hdone]; rfl) with hclosed | heof
  · have hstatus : s.channel.exitStatus = some 0 := by
      cases hs : s.channel.exitStatus with
      | none => simp [hs] at hcode
      | some code => simp_all
    rcases hclosedOk.2 hclosed hstatus with hpending | ⟨e, he⟩
    · exact hpending
    · rw [hdone] at he
      cases he
  · exact hok.eof heof

/-- The length of the bytes stands for their text. -/
def lengthText (bytes : List UInt8) : String := toString bytes.length

/-- The exit status comes before the tail of the output, and the channel ends regularly. -/
def tailAfterStatus : List ExecuteAction :=
  [.exec .opened 0, .channel (.stdout 1), .program 0, .channel (.exitStatus 0), .program 0, .program 0,
    .program 0, .program 0, .program 0, .program 1, .program 1, .channel (.stdout 2), .channel .eof,
    .channel .close, .program 2, .program 2, .program 2, .program 2, .program 2, .program 2, .program 2]

theorem late_tail_is_read :
    ∃ s, Machine.run (ExecuteState.step lengthText 15) (.start [1, 2, 3] []) tailAfterStatus = some s ∧
      "3" = lengthText s.outputChunks.flatten ∧
      (s.outputChunks.flatten = [1, 2, 3] ↔
        Machine.Meets (ExecuteState.step lengthText 15) LossAfterOutput (.start [1, 2, 3] [])
          tailAfterStatus) :=
  ⟨_, rfl, execute_complete_iff lengthText 15 [1, 2, 3] [] tailAfterStatus rfl rfl⟩

/-- The transport is lost between the exit status and the tail of the output. -/
def lossAfterStatus : List ExecuteAction :=
  [.exec .opened 0, .channel (.stdout 1), .program 0, .channel (.exitStatus 0), .channel .lose,
    .program 0, .program 0, .program 0, .program 0, .program 0, .program 0]

/-- The exit code is 0 and two of the three bytes are missing. -/
theorem lost_tail_is_success :
    ∃ s, Machine.run (ExecuteState.step lengthText 15) (.start [1, 2, 3] []) lossAfterStatus = some s ∧
      s.point = .done (.ok (0, "1", "0")) ∧ s.outputChunks.flatten ≠ [1, 2, 3] :=
  ⟨_, rfl, rfl, by decide⟩

end ConnectionTopology
