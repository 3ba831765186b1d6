import LnGossipSim.Library.Words
import LnGossipSim.Simd.ReplyText
import LnGossipSim.Simd.Server

/-!
# The Control Client

The daemon is controlled by a client that is started once for each command. It prints
the command into a line, sends the line over the control socket, and shows what comes
back. The session at the other end reads lines, handles one after the other, and writes
the replies. A line that panics ends the session.

The client does not look at its arguments, and the daemon splits the line at white
space, so an argument reaches the daemon as it was given only if it is a word. With a
space in it the daemon sees another argument, and with a line break in it another
command. When all arguments are words, the session handles the command and nothing else,
and the client shows the reply.

## Main definitions

* `IsArgument`: A text that reaches the daemon as it is.
* `Cli.Command`: A command of the client, with its line and its words.
* `handleLines`, `serve`, `replyOf`: A session, and what it replies.
* `Cli.printed`: What the client shows.

## Theorems

* `Cli.Command.lines_cmd`: When the line of a command is read as its words.
* `Cli.handleLines_single`: What a session does with one line.
* `Cli.cli_runs_command`: The daemon handles the command, and the client shows the
  reply.
-/

namespace LnGossipSim

namespace Simd

open Bolt Decimal Method Noise Words

/-- The text is one word of a line. -/
def IsArgument (arg : String) : Prop := IsWord isWhiteSpace arg.toList

instance (arg : String) : Decidable (IsArgument arg) :=
  @instDecidableAnd _ _ inferInstance (List.decidableBAll _ _)

namespace Cli

/-- A command of the client, with its arguments. -/
inductive Command where
  | connect (pubkey addr : String)
  | disconnect (pubkey : String)
  | peers
  | info
  | mine (blocks : UInt64)
  | sendChannelAnnouncement (pubkey : String)
  | sendChannelAnnouncement2 (pubkey : String)
  | sendChannelUpdate (pubkey scid : String)
  | sendNodeAnnouncement (pubkey : String)
  | sendMessage (pubkey message : String)
  | stop

namespace Command

/-- The line that is sent for the command, without its line break. -/
def cmd : Command → String
  | connect pubkey addr => s!"connect {pubkey} {addr}"
  | disconnect pubkey => s!"disconnect {pubkey}"
  | peers => "peers"
  | info => "info"
  | mine blocks => s!"mine {blocks}"
  | sendChannelAnnouncement pubkey => s!"sendchannelannouncement {pubkey}"
  | sendChannelAnnouncement2 pubkey => s!"sendchannelannouncement2 {pubkey}"
  | sendChannelUpdate pubkey scid => s!"sendchannelupdate {pubkey} {scid}"
  | sendNodeAnnouncement pubkey => s!"sendnodeannouncement {pubkey}"
  | sendMessage pubkey message => s!"sendmessage {pubkey} {message}"
  | stop => "stop"

/-- The arguments that were given as texts. -/
def args : Command → List String
  | connect pubkey addr => [pubkey, addr]
  | disconnect pubkey => [pubkey]
  | sendChannelAnnouncement pubkey => [pubkey]
  | sendChannelAnnouncement2 pubkey => [pubkey]
  | sendChannelUpdate pubkey scid => [pubkey, scid]
  | sendNodeAnnouncement pubkey => [pubkey]
  | sendMessage pubkey message => [pubkey, message]
  | _ => []

/-- The words that the daemon is to see: the name of the command and its
    arguments. -/
def words : Command → List String
  | connect pubkey addr => ["connect", pubkey, addr]
  | disconnect pubkey => ["disconnect", pubkey]
  | peers => ["peers"]
  | info => ["info"]
  | mine blocks => ["mine", toString blocks]
  | sendChannelAnnouncement pubkey => ["sendchannelannouncement", pubkey]
  | sendChannelAnnouncement2 pubkey => ["sendchannelannouncement2", pubkey]
  | sendChannelUpdate pubkey scid => ["sendchannelupdate", pubkey, scid]
  | sendNodeAnnouncement pubkey => ["sendnodeannouncement", pubkey]
  | sendMessage pubkey message => ["sendmessage", pubkey, message]
  | stop => ["stop"]

end Command

/-- What the client shows of the text that it receives. -/
def printed (text : String) : String := String.ofList (unlines (lines text.toList))

end Cli

section

variable {S : Secp256k1} [DecidableEq S.PublicKey] {C : ControlCrates S} (P : Primitives)
  (E : Signing S) (L : BitcoinCrate S) (nodeId : S.PublicKey)

/-- Handles lines in order, as long as none of them panics. Returns the replies and what
    is left. -/
def handleLines : List (Turn C L.Address) → Server S L.Address →
    List String × Server S L.Address
  | [], s => ([], s)
  | turn :: turns, s =>
    -- A command that panics ends its session, without a reply and without the lines after it.
    let r := (turn.act P E L nodeId).run s
    match r.outcome with
    | .ok reply =>
      let rest := handleLines turns r.state
      (reply :: rest.1, rest.2)
    | _ => ([], r.state)

/-- A session that receives a text. What its lines meet is given by their numbers. -/
def serve (world : Nat → Turn C L.Address) (text : String) :
    Server S L.Address → List String × Server S L.Address :=
  handleLines P E L nodeId ((lines text.toList).mapIdx fun i line =>
    { world i with line := String.ofList line })

end

/-- The reply to a command, if it does not panic. -/
def replyOf : Outcome String String → Option String
  | .ok reply => some reply
  | .err reply => some reply
  | _ => none

theorem endsLine_of_replyOf (o : Outcome String String) (reply : String)
    (h : o.Meets EndsLine EndsLine) (hreply : replyOf o = some reply) : EndsLine reply := by
  cases o with
  | ok r => exact Option.some.inj hreply ▸ h
  | err r => exact Option.some.inj hreply ▸ h
  | panicked => exact nomatch hreply
  | diverged => exact nomatch hreply

theorem splitWhitespace_eq (line : String) :
    splitWhitespace line = (words isWhiteSpace line.toList).map String.ofList := rfl

theorem map_ofList_eq (texts : List (List Char)) (ws : List String) :
    texts.map String.ofList = ws ↔ texts = ws.map String.toList := by
  constructor
  · rintro rfl
    simp [Function.comp_def]
  · rintro rfl
    simp [Function.comp_def]

/-- A number is printed as a word. -/
theorem isArgument_toString (n : UInt64) : IsArgument (toString n) := by
  have hdigits : (toString n).toList = Nat.toDigits 10 n.toNat := Nat.toList_repr
  unfold IsArgument
  rw [hdigits]
  refine ⟨Nat.toDigits_ne_nil, fun c hc => ?_⟩
  have hdigit : c.isDigit = true := Nat.isDigit_of_mem_toDigits (by decide) (by decide) hc
  have hrange : 48 ≤ c.toNat ∧ c.toNat ≤ 57 := by
    simpa [Char.isDigit, UInt32.le_iff_toNat_le] using hdigit
  unfold isWhiteSpace
  simp only [decide_eq_false_iff_not]
  omega

/-- A first word that is fixed. -/
theorem forall_cons_of (word : String) (ws : List String) (h : IsArgument word) :
    (∀ w ∈ word :: ws, IsArgument w) ↔ ∀ w ∈ ws, IsArgument w := by
  rw [List.forall_mem_cons]
  exact and_iff_right h

namespace Cli

namespace Command

/-- The line is the words with spaces in between. -/
theorem cmd_eq (command : Command) : command.cmd = " ".intercalate command.words := by
  cases command <;> rfl

/-- All words are words of a line if all arguments are. -/
theorem forall_words (command : Command) :
    (∀ word ∈ command.words, IsArgument word) ↔ ∀ arg ∈ command.args, IsArgument arg := by
  cases command with
  | connect pubkey addr => exact forall_cons_of _ _ (by decide)
  | disconnect pubkey => exact forall_cons_of _ _ (by decide)
  | peers => exact forall_cons_of _ _ (by decide)
  | info => exact forall_cons_of _ _ (by decide)
  | mine blocks =>
      refine (forall_cons_of _ _ (by decide)).trans ?_
      exact forall_cons_of _ _ (isArgument_toString blocks)
  | sendChannelAnnouncement pubkey => exact forall_cons_of _ _ (by decide)
  | sendChannelAnnouncement2 pubkey => exact forall_cons_of _ _ (by decide)
  | sendChannelUpdate pubkey scid => exact forall_cons_of _ _ (by decide)
  | sendNodeAnnouncement pubkey => exact forall_cons_of _ _ (by decide)
  | sendMessage pubkey message => exact forall_cons_of _ _ (by decide)
  | stop => exact forall_cons_of _ _ (by decide)

/-- The line of a command is read back as its words, and only if its arguments are
    words of a line. -/
theorem splitWhitespace_cmd (command : Command) :
    splitWhitespace command.cmd = command.words ↔ ∀ arg ∈ command.args, IsArgument arg := by
  have hiff := words_intercalate isWhiteSpace ' ' (by decide) (command.words.map String.toList)
  rw [List.forall_mem_map] at hiff
  rw [← forall_words, splitWhitespace_eq, map_ofList_eq, cmd_eq, String.toList_intercalate]
  exact hiff

/-- What is sent for a command is one line, if its arguments are words of a line. -/
theorem lines_eq (command : Command) (h : ∀ arg ∈ command.args, IsArgument arg) :
    lines (command.cmd ++ "\n").toList = [command.cmd.toList] := by
  have hwords : ∀ w ∈ command.words.map String.toList, IsWord isWhiteSpace w :=
    List.forall_mem_map.mpr ((forall_words command).mpr h)
  have hcmd : command.cmd.toList = [' '].intercalate (command.words.map String.toList) := by
    rw [cmd_eq, String.toList_intercalate]
    rfl
  -- Neither byte that ends a line can stand in a word.
  have hbreak : '\n' ∉ command.cmd.toList := by
    rw [hcmd]
    exact not_mem_intercalate isWhiteSpace ' ' '\n' (by decide) (by decide) _ hwords
  have hreturn : '\r' ∉ command.cmd.toList := by
    rw [hcmd]
    exact not_mem_intercalate isWhiteSpace ' ' '\r' (by decide) (by decide) _ hwords
  rw [String.toList_append]
  refine (lines_append_cons command.cmd.toList [] hbreak).trans ?_
  rw [stripReturn_of_not_mem _ hreturn, lines_nil]

/-- What is sent is one line that reads as the words of the command, if its arguments
    are words of a line, and only then. -/
theorem lines_cmd (command : Command) :
    (lines (command.cmd ++ "\n").toList).map (fun line => splitWhitespace (String.ofList line))
        = [command.words]
      ↔ ∀ arg ∈ command.args, IsArgument arg := by
  constructor
  -- A word that was read off a line is a word, so reading the line back fails otherwise.
  · intro h
    refine (forall_words command).mp fun word hword => ?_
    -- There is one line, and the word is one of its words.
    rcases List.map_eq_singleton_iff.mp h with ⟨line, -, hline⟩
    rw [← hline, splitWhitespace_eq, List.mem_map] at hword
    rcases hword with ⟨chars, hchars, rfl⟩
    unfold IsArgument
    rw [String.toList_ofList]
    exact isWord_of_mem isWhiteSpace _ chars hchars
  · intro h
    rw [lines_eq command h, List.map_singleton, String.ofList_toList,
      (splitWhitespace_cmd command).mpr h]

end Command

/-- A reply is shown as it is, as long as it has no carriage return. -/
theorem printed_of_endsLine (reply : String) (h : EndsLine reply) (hreturn : '\r' ∉ reply.toList) :
    printed reply = reply := by
  rcases h with ⟨front, rfl⟩
  rw [String.toList_append] at hreturn
  have hread := unlines_lines front.toList fun hmem => hreturn (List.mem_append_left _ hmem)
  unfold printed
  rw [String.toList_append]
  change String.ofList (unlines (lines (front.toList ++ ['\n']))) = _
  rw [hread, ← String.toList_inj, String.toList_ofList, String.toList_append]
  rfl

section

variable {S : Secp256k1} [DecidableEq S.PublicKey] {C : ControlCrates S} {P : Primitives}
  {E : Signing S} {L : BitcoinCrate S}

/-- A session with one line runs the command that its words name, and replies unless the
    command panics. -/
theorem handleLines_single (nodeId : S.PublicKey) (turn : Turn C L.Address)
    (s : Server S L.Address) :
    let run := (runCommand C turn.surroundings P E L turn.bitcoind nodeId
      (splitWhitespace turn.line)).run { s with shared := turn.idle s.shared }
    handleLines P E L nodeId [turn] s = ((replyOf run.outcome).toList, run.state) := by
  intro run
  have hrun : run = (runCommand C turn.surroundings P E L turn.bitcoind nodeId
    (splitWhitespace turn.line)).run { s with shared := turn.idle s.shared } := rfl
  have hact : (turn.act P E L nodeId).run s = (handleCommand C turn.surroundings P E L
      turn.bitcoind nodeId turn.line).run { s with shared := turn.idle s.shared } := by
    unfold Turn.act
    rw [run_modify_bind]
  unfold handleLines
  rw [hact]
  unfold handleCommand
  rw [run_bind, run_attempt, ← hrun]
  -- What the run is does not matter from here on, only how it ended.
  clear_value run
  rcases run with ⟨o, s', t⟩
  cases o with
  | ok reply => rfl
  | err reply => rfl
  | panicked => rfl
  | diverged => rfl

/-- The command that a client was started for is the command that the daemon runs, with
    the arguments that were given, if they are words of a line. Its reply ends in a line
    break, and is shown as it is. -/
theorem cli_runs_command (nodeId : S.PublicKey) (command : Command)
    (world : Nat → Turn C L.Address) (s : Server S L.Address) :
    let text := command.cmd ++ "\n"
    ((lines text.toList).map (fun line => splitWhitespace (String.ofList line)) = [command.words]
        ↔ ∀ arg ∈ command.args, IsArgument arg)
    ∧ ((∀ arg ∈ command.args, IsArgument arg) →
      let turn := world 0
      let run := (runCommand C turn.surroundings P E L turn.bitcoind nodeId command.words).run
        { s with shared := turn.idle s.shared }
      serve P E L nodeId world text s = ((replyOf run.outcome).toList, run.state)
      ∧ ∀ reply, replyOf run.outcome = some reply →
        EndsLine reply ∧ ('\r' ∉ reply.toList → printed reply = reply))
    ∧ ∀ blocks, command = .mine blocks → command.words[1]?.bind parseUsize = some blocks.toNat := by
  intro text
  refine ⟨command.lines_cmd, fun hargs => ?_, ?_⟩
  · intro turn run
    have hwords := command.splitWhitespace_cmd.mpr hargs
    refine ⟨?_, fun reply hreply => ?_⟩
    · unfold serve
      rw [command.lines_eq hargs]
      -- The text is one line, and the line's words are those of the command.
      have hserved := handleLines_single (P := P) (E := E) (L := L) nodeId
        { turn with line := command.cmd } s
      simp only [hwords] at hserved
      rw [List.mapIdx_singleton, String.ofList_toList]
      exact hserved
    -- Whatever the command is, it has a name, so its reply is one of a command.
    · have hparts : command.words ≠ [] := by cases command <;> exact List.cons_ne_nil _ _
      have hends := replies_runCommand (C := C) (W := turn.surroundings) (P := P) (E := E) (L := L)
        (B := turn.bitcoind) nodeId command.words hparts { s with shared := turn.idle s.shared }
      have hline := endsLine_of_replyOf _ reply hends hreply
      exact ⟨hline, printed_of_endsLine reply hline⟩
  -- A count is printed in decimal and parsed as such.
  · rintro blocks rfl
    have hdigits : (toString blocks).toList = Nat.toDigits 10 blocks.toNat := Nat.toList_repr
    change parseUnsigned (2 ^ 64) (toString blocks).toList = some blocks.toNat
    rw [hdigits]
    exact (parseUnsigned_eq_some _ _ _ (by decide)).mpr ⟨spells_toDigits _, blocks.toNat_lt⟩

end

/-- The one peer of a server is disconnected. -/
theorem cli_runs_command_disconnect :
    let key : ByteArr 33 := List.Vector.replicate 33 2
    let s : Server .transparent String := { Server.idle with
      shared := { Server.idle.shared with
        peers := ⟨[(key, 0)], List.nodup_singleton _⟩
        connections := [⟨key, true, false, .running⟩] } }
    let command := Command.disconnect (hexText key.toList)
    let served := serve .transparent .transparent .transparent key (fun _ => .alone "")
      (command.cmd ++ "\n") s
    let reply := "Disconnected " ++ hexText key.toList ++ "\n"
    served.1 = [reply] ∧ printed reply = reply := by
  intro key s command served reply
  have hargs : ∀ arg ∈ command.args, IsArgument arg := by
    decide +kernel
  have hserved := (cli_runs_command (P := .transparent) (E := .transparent) (L := .transparent)
    key command (fun _ => .alone "") s).2.1 hargs
  have hreply : replyOf ((runCommand .transparent .quiet .transparent .transparent .transparent
      .sample key command.words).run s).outcome = some reply := by
    decide +kernel
  refine ⟨?_, (hserved.2 reply hreply).2 (by decide +kernel)⟩
  rw [show served = _ from hserved.1]
  exact congrArg Option.toList hreply

/-- An argument with a line break in it makes two commands. -/
example :
    (lines ((Command.disconnect "02\nstop").cmd ++ "\n").toList).map
        (fun line => splitWhitespace (String.ofList line))
      = [["disconnect", "02"], ["stop"]] := by
  decide +kernel

end Cli

end Simd

end LnGossipSim
