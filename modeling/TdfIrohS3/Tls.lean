import Mathlib.Logic.Function.Basic
import TdfIrohS3.Library.Fallible
import TdfIrohS3.Library.Machine
import TdfIrohS3.Library.Stamped

namespace TdfIrohS3.Tls

open Library

/-! The configuration of the listener, from the texts of the two files. -/

inductive ProtocolVersion where
  | tls12
  | tls13
  deriving DecidableEq, Repr

structure Rustls (Certificate PrivateKey : Type) where
  pemSliceIter : List UInt8 → List (Except String Certificate)
  fromPemSlice : List UInt8 → Except String PrivateKey
  withProtocolVersions : List ProtocolVersion → Except String Unit
  withSingleCert : List Certificate → PrivateKey → Except String Unit

structure ServerConfig (Certificate PrivateKey : Type) where
  versions : List ProtocolVersion
  certs : List Certificate
  key : PrivateKey
  alpnProtocols : List (List UInt8)
  deriving DecidableEq, Repr

variable {Certificate PrivateKey : Type}

def serverConfig (rustls : Rustls Certificate PrivateKey) (certPem keyPem : List UInt8) :
    Except String (ServerConfig Certificate PrivateKey) := do
  let certs ← ((rustls.pemSliceIter certPem).mapM id).mapError ("certificate chain: " ++ ·)
  if certs.isEmpty then
    throw "certificate chain: no certificates"
  let key ← (rustls.fromPemSlice keyPem).mapError ("private key: " ++ ·)
  rustls.withProtocolVersions [.tls13]
  rustls.withSingleCert certs key
  return {
    versions := [.tls13]
    certs := certs
    key := key
    alpnProtocols := ["h2".toUTF8.toList, "http/1.1".toUTF8.toList] }

/-! The two files on disk. A call of the file system may fail for reasons of its own (`trouble`, the
text of its error); otherwise it tells how the file is at that moment. -/

abbrev PemFile := Stamped Nat (List UInt8)

inductive PairFile where
  | cert
  | key
  deriving DecidableEq, Repr

structure Mtimes where
  cert : Option Nat
  key : Option Nat
  deriving DecidableEq, Repr

def Mtimes.of (now : Mtimes) : PairFile → Option Nat
  | .cert => now.cert
  | .key => now.key

def mtime (file : PemFile) : Option String → Option Nat
  | some _ => none
  | none => file.stamp

def fileExists (file : PemFile) : Option String → Bool
  | some _ => false
  | none => file.contents.isSome

def notFound : String := "No such file or directory (os error 2)"

def readFile (path : String) (file : PemFile) : Option String → Except String (List UInt8)
  | some trouble => .error (path ++ ": " ++ trouble)
  | none =>
      match file.contents with
      | some contents => .ok contents
      | none => .error (path ++ ": " ++ notFound)

structure TlsConfig where
  certPath : String
  keyPath : String

/-- Where the task is: what it does next. `now` are the mtimes read at the start of this round, the
baseline if the round ends in a reload. -/
inductive Phase (Certificate PrivateKey : Type) where
  | asleep
  | certMtime
  | keyMtime (cert : Option Nat)
  | certExists (now : Mtimes)
  | keyExists (now : Mtimes)
  | certContents (now : Mtimes)
  | keyContents (now : Mtimes) (cert : List UInt8)
  | install (now : Mtimes) (config : ServerConfig Certificate PrivateKey)
  | record (now : Mtimes)

/-- The two files, and the task that runs `load_when_ready` until it returns and
`reload_on_change` from then on. `loaded` is what `reload_on_change` keeps under that name: it is
`none` as long as `load_when_ready` runs. -/
structure Node (Certificate PrivateKey : Type) where
  files : PairFile → PemFile
  service : Option (ServerConfig Certificate PrivateKey)
  loaded : Option Mtimes
  lastErr : String
  phase : Phase Certificate PrivateKey

inductive Notice where
  | warn (text : String)
  | info (text : String)
  deriving DecidableEq, Repr

inductive Event where
  | wrote (file : PairFile) (mtime : Nat) (contents : List UInt8)
  | moved (trouble : Option String)

namespace Node

variable (rustls : Rustls Certificate PrivateKey) (cfg : TlsConfig)
variable (node : Node Certificate PrivateKey)

def starting (files : PairFile → PemFile) : Node Certificate PrivateKey where
  files := files
  service := none
  loaded := none
  lastErr := ""
  phase := .certMtime

def mtimes : Mtimes where
  cert := (node.files .cert).stamp
  key := (node.files .key).stamp

def wrote (file : PairFile) (mtime : Nat) (contents : List UInt8) : Node Certificate PrivateKey :=
  { node with files := Function.update node.files file ((node.files file).write mtime contents) }

def goOn (phase : Phase Certificate PrivateKey) : Node Certificate PrivateKey :=
  { node with phase := phase }

/-- The pair did not load: `load_when_ready` warns when the reason is another than last time,
`reload_on_change` warns always. -/
def failed (e : String) : Node Certificate PrivateKey × List Notice :=
  match node.loaded with
  | none =>
      if e ≠ node.lastErr then
        ({ node.goOn .asleep with lastErr := e },
          [.warn ("HTTPS waiting for a loadable cert " ++ cfg.certPath ++ " / key " ++ cfg.keyPath ++
            ": " ++ e)])
      else (node.goOn .asleep, [])
  | some _ =>
      (node.goOn .asleep, [.warn ("TLS certificate reload failed, keeping the old one: " ++ e)])

def compared (now : Mtimes) : Node Certificate PrivateKey :=
  match node.loaded with
  | none => node.goOn (.certExists now)
  | some loaded =>
      if now = loaded then node.goOn .asleep
      else node.goOn (.certContents now)

def moved (trouble : Option String) : Node Certificate PrivateKey × List Notice :=
  match node.phase with
  | .asleep => (node.goOn .certMtime, [])
  | .certMtime => (node.goOn (.keyMtime (mtime (node.files .cert) trouble)), [])
  | .keyMtime cert => (node.compared ⟨cert, mtime (node.files .key) trouble⟩, [])
  | .certExists now =>
      if fileExists (node.files .cert) trouble then (node.goOn (.keyExists now), [])
      else node.failed cfg "cert or key file missing"
  | .keyExists now =>
      if fileExists (node.files .key) trouble then (node.goOn (.certContents now), [])
      else node.failed cfg "cert or key file missing"
  | .certContents now =>
      match readFile cfg.certPath (node.files .cert) trouble with
      | .ok cert => (node.goOn (.keyContents now cert), [])
      | .error e => node.failed cfg e
  | .keyContents now cert =>
      match readFile cfg.keyPath (node.files .key) trouble >>= serverConfig rustls cert with
      | .ok config => (node.goOn (.install now config), [])
      | .error e => node.failed cfg e
  | .install now config =>
      ({ node.goOn (.record now) with service := some config },
        match node.loaded with
        | none => []
        | some _ => [.info ("TLS certificate reloaded from " ++ cfg.certPath)])
  | .record now => ({ node.goOn .asleep with loaded := some now }, [])

def machine : Machine (Node Certificate PrivateKey) Event Notice where
  next node event :=
    match event with
    | .wrote file mtime contents => some (node.wrote file mtime contents, [])
    | .moved trouble => some (node.moved rustls cfg trouble)

end Node

/-! No renewal is missed. -/

def Phase.now : Phase Certificate PrivateKey → Option Mtimes
  | .asleep | .certMtime => none
  | .keyMtime cert => some ⟨cert, none⟩
  | .certExists now | .keyExists now | .certContents now | .keyContents now _ | .install now _
  | .record now => some now

def Phase.Loading (now : Mtimes) : Phase Certificate PrivateKey → Prop
  | .certExists loading | .keyExists loading | .certContents loading | .keyContents loading _ =>
      loading = now
  | _ => False

def Phase.Replacing : Phase Certificate PrivateKey → Prop
  | .install _ _ | .record _ => True
  | _ => False

def FreshWrites (_ : List Notice) (node : Node Certificate PrivateKey) : Event → Prop
  | .wrote file mtime _ => (node.files file).Fresh mtime
  | .moved _ => True

instance (log : List Notice) (node : Node Certificate PrivateKey) (event : Event) :
    Decidable (FreshWrites log node event) :=
  match event with
  | .wrote file mtime _ => inferInstanceAs (Decidable ((node.files file).Fresh mtime))
  | .moved _ => inferInstanceAs (Decidable True)

namespace Node

variable (rustls : Rustls Certificate PrivateKey) (cfg : TlsConfig)
variable (node : Node Certificate PrivateKey)

def Marked (now : Mtimes) : Prop := node.phase.now = some now ∨ node.loaded = some now

def BuiltAt (now : Mtimes) (config : ServerConfig Certificate PrivateKey) : Prop :=
  ∃ cert key, serverConfig rustls cert key = .ok config ∧
    (node.files .cert).HoldsAt now.cert cert ∧ (node.files .key).HoldsAt now.key key

/-- What the round carries is of the pair, for as long as the files have any of the marked mtimes:
`loaded` counts too, since the configuration in service is replaced before it is. -/
def Carries : Phase Certificate PrivateKey → Prop
  | .keyContents _ cert => ∀ mark, node.Marked mark → (node.files .cert).HoldsAt mark.cert cert
  | .install _ config => ∀ mark, node.Marked mark → node.BuiltAt rustls mark config
  | .record _ => ∃ config, node.service = some config ∧
      ∀ mark, node.Marked mark → node.BuiltAt rustls mark config
  | _ => True

structure Sound : Prop where
  seen : ∀ mark, node.Marked mark → ∀ file, (node.files file).Seen (mark.of file)
  differs : ∀ now, node.phase.Loading now → node.loaded ≠ some now
  carries : node.Carries rustls node.phase
  served : ∀ loaded, node.loaded = some loaded →
    ∃ config, node.service = some config ∧ node.BuiltAt rustls loaded config

variable {rustls cfg node}
variable {file : PairFile} {mtime : Nat} {contents : List UInt8} {trouble : Option String}
variable {mark now : Mtimes} {config : ServerConfig Certificate PrivateKey}
variable {next : Node Certificate PrivateKey} {notices : List Notice}

section Writes

theorem wrote_files (other : PairFile) :
    (node.wrote file mtime contents).files other =
      if other = file then (node.files file).write mtime contents else node.files other := by
  change Function.update node.files file _ other = _
  rw [Function.update_apply]

theorem seen_wrote {other : PairFile} {stamp : Option Nat} (seen : (node.files other).Seen stamp) :
    ((node.wrote file mtime contents).files other).Seen stamp := by
  rw [wrote_files]
  split
  · rename_i same
    exact (same ▸ seen).write mtime contents
  · exact seen

variable (fresh : (node.files file).Fresh mtime)
include fresh

theorem holdsAt_wrote {other : PairFile} {stamp : Option Nat} {read : List UInt8}
    (seen : (node.files other).Seen stamp) (held : (node.files other).HoldsAt stamp read) :
    ((node.wrote file mtime contents).files other).HoldsAt stamp read := by
  rw [wrote_files]
  split
  · rename_i same
    exact Stamped.holdsAt_write (same ▸ seen) fresh contents
  · exact held

theorem builtAt_wrote (seen : ∀ other, (node.files other).Seen (mark.of other))
    (built : node.BuiltAt rustls mark config) :
    (node.wrote file mtime contents).BuiltAt rustls mark config := by
  obtain ⟨cert, key, loads, certHeld, keyHeld⟩ := built
  exact ⟨cert, key, loads, holdsAt_wrote fresh (seen .cert) certHeld,
    holdsAt_wrote fresh (seen .key) keyHeld⟩

theorem carries_wrote (seen : ∀ mark, node.Marked mark → ∀ other,
      (node.files other).Seen (mark.of other))
    {phase : Phase Certificate PrivateKey} (carries : node.Carries rustls phase) :
    (node.wrote file mtime contents).Carries rustls phase := by
  cases phase with
  | keyContents now cert =>
      intro mark marked
      exact holdsAt_wrote fresh (seen mark marked .cert) (carries mark marked)
  | install now config =>
      intro mark marked
      exact builtAt_wrote fresh (seen mark marked) (carries mark marked)
  | record now =>
      obtain ⟨config, inService, built⟩ := carries
      refine ⟨config, inService, ?_⟩
      intro mark marked
      exact builtAt_wrote fresh (seen mark marked) (built mark marked)
  | asleep => exact trivial
  | certMtime => exact trivial
  | keyMtime cert => exact trivial
  | certExists now => exact trivial
  | keyExists now => exact trivial
  | certContents now => exact trivial

theorem Sound.wrote (sound : node.Sound rustls) :
    (node.wrote file mtime contents).Sound rustls where
  seen mark marked other := seen_wrote (sound.seen mark marked other)
  differs := sound.differs
  carries := carries_wrote fresh sound.seen sound.carries
  served := by
    intro loaded recorded
    obtain ⟨config, inService, built⟩ := sound.served loaded recorded
    exact ⟨config, inService, builtAt_wrote fresh (sound.seen loaded (.inr recorded)) built⟩

end Writes

section Moves

theorem readFile_ok {path : String} {file : PemFile} {read : List UInt8}
    (answered : readFile path file trouble = .ok read) : file.contents = some read := by
  cases trouble with
  | some why => cases answered
  | none =>
      cases held : file.contents with
      | none => simp [readFile, held] at answered
      | some contents =>
          simp only [readFile, held, Except.ok.injEq] at answered
          rw [answered]

theorem seen_mtime (file : PemFile) (trouble : Option String) : file.Seen (Tls.mtime file trouble) := by
  cases trouble with
  | some why => exact file.seen_none
  | none => exact file.seen_stamp

variable (rustls cfg node) in
inductive Effect : Node Certificate PrivateKey → Prop
  | woke (here : node.phase = .asleep) : Effect (node.goOn .certMtime)
  | certStamped {stamp : Option Nat} (here : node.phase = .certMtime)
      (seen : (node.files .cert).Seen stamp) : Effect (node.goOn (.keyMtime stamp))
  | unchanged {cert stamp : Option Nat} (here : node.phase = .keyMtime cert)
      (same : node.loaded = some ⟨cert, stamp⟩) : Effect (node.goOn .asleep)
  | changed {cert stamp : Option Nat} {phase : Phase Certificate PrivateKey}
      (here : node.phase = .keyMtime cert) (seen : (node.files .key).Seen stamp)
      (differs : node.loaded ≠ some ⟨cert, stamp⟩)
      (looks : phase = .certExists ⟨cert, stamp⟩ ∨ phase = .certContents ⟨cert, stamp⟩) :
      Effect (node.goOn phase)
  | found {now : Mtimes} {phase : Phase Certificate PrivateKey} (loading : node.phase.Loading now)
      (looks : phase = .keyExists now ∨ phase = .certContents now) : Effect (node.goOn phase)
  | certRead {now : Mtimes} {cert : List UInt8} (here : node.phase = .certContents now)
      (read : (node.files .cert).contents = some cert) : Effect (node.goOn (.keyContents now cert))
  | keyRead {now : Mtimes} {cert key : List UInt8} {config : ServerConfig Certificate PrivateKey}
      (here : node.phase = .keyContents now cert) (read : (node.files .key).contents = some key)
      (loads : serverConfig rustls cert key = .ok config) : Effect (node.goOn (.install now config))
  | failed {now : Mtimes} {lastErr : String} (loading : node.phase.Loading now) :
      Effect { node.goOn .asleep with lastErr := lastErr }
  | installed {now : Mtimes} {config : ServerConfig Certificate PrivateKey}
      (here : node.phase = .install now config) :
      Effect { node.goOn (.record now) with service := some config }
  | recorded {now : Mtimes} (here : node.phase = .record now) :
      Effect { node.goOn .asleep with loaded := some now }

theorem loading_now {phase : Phase Certificate PrivateKey} (loading : phase.Loading now) :
    phase.now = some now := by
  cases phase with
  | certExists | keyExists | certContents | keyContents => rw [show _ = now from loading]; rfl
  | asleep | certMtime | keyMtime | install | record => cases loading

theorem not_replacing {phase : Phase Certificate PrivateKey} (loading : phase.Loading now) :
    ¬phase.Replacing := by
  cases phase with
  | certExists | keyExists | certContents | keyContents => exact id
  | asleep | certMtime | keyMtime | install | record => cases loading

theorem effect_failed (loading : node.phase.Loading now) (e : String) :
    Effect rustls node (node.failed cfg e).1 := by
  unfold Node.failed
  split
  · split
    · exact Effect.failed loading
    · exact Effect.failed loading
  · exact Effect.failed loading

theorem effect_compared {cert stamp : Option Nat} (here : node.phase = .keyMtime cert)
    (seen : (node.files .key).Seen stamp) : Effect rustls node (node.compared ⟨cert, stamp⟩) := by
  unfold compared
  split
  · rename_i startup
    exact Effect.changed here seen (by simp [startup]) (.inl rfl)
  · rename_i loaded recorded
    split
    · rename_i same
      exact Effect.unchanged here (recorded.trans (congrArg some same.symm))
    · rename_i other
      refine Effect.changed here seen ?_ (.inr rfl)
      rw [recorded]
      exact fun same => other (Option.some.inj same).symm

theorem moved_effect (trouble : Option String) :
    Effect rustls node (node.moved rustls cfg trouble).1 := by
  cases here : node.phase with
  | asleep =>
      simp only [moved, here]
      exact Effect.woke here
  | certMtime =>
      simp only [moved, here]
      exact Effect.certStamped here (seen_mtime _ _)
  | keyMtime cert =>
      simp only [moved, here]
      exact effect_compared here (seen_mtime _ _)
  | certExists now =>
      have loading : node.phase.Loading now := by rw [here]; rfl
      simp only [moved, here]
      split
      · exact Effect.found loading (.inl rfl)
      · exact effect_failed loading _
  | keyExists now =>
      have loading : node.phase.Loading now := by rw [here]; rfl
      simp only [moved, here]
      split
      · exact Effect.found loading (.inr rfl)
      · exact effect_failed loading _
  | certContents now =>
      have loading : node.phase.Loading now := by rw [here]; rfl
      simp only [moved, here]
      split
      · rename_i cert read
        exact Effect.certRead here (readFile_ok read)
      · exact effect_failed loading _
  | keyContents now cert =>
      have loading : node.phase.Loading now := by rw [here]; rfl
      simp only [moved, here]
      split
      · rename_i config built
        obtain ⟨key, read, loads⟩ := bind_ok.mp built
        exact Effect.keyRead here (readFile_ok read) loads
      · exact effect_failed loading _
  | install now config =>
      simp only [moved, here]
      exact Effect.installed here
  | record now =>
      simp only [moved, here]
      exact Effect.recorded here

theorem Sound.goOn (sound : node.Sound rustls) {phase : Phase Certificate PrivateKey}
    (seen : ∀ now, phase.now = some now → ∀ file, (node.files file).Seen (now.of file))
    (differs : ∀ now, phase.Loading now → node.loaded ≠ some now)
    (carries : (node.goOn phase).Carries rustls phase) : (node.goOn phase).Sound rustls where
  seen := by
    intro mark marked file
    rcases marked with reading | recorded
    · exact seen mark reading file
    · exact sound.seen mark (.inr recorded) file
  differs := differs
  carries := carries
  served := sound.served

theorem Sound.keepOn (sound : node.Sound rustls) {phase : Phase Certificate PrivateKey}
    (loading : node.phase.Loading now) (same : phase.now = some now)
    (carries : (node.goOn phase).Carries rustls phase) : (node.goOn phase).Sound rustls := by
  apply sound.goOn _ _ carries
  · intro other reading file
    cases same.symm.trans reading
    exact sound.seen now (.inl (loading_now loading)) file
  · intro other still
    cases same.symm.trans (loading_now still)
    exact sound.differs now loading

theorem Sound.restart (sound : node.Sound rustls) {phase : Phase Certificate PrivateKey}
    (unread : phase.now = none) : (node.goOn phase).Sound rustls := by
  apply sound.goOn
  · intro now reading
    cases unread.symm.trans reading
  · intro now loading
    cases unread.symm.trans (loading_now loading)
  · cases phase with
    | asleep | certMtime => exact trivial
    | keyMtime | certExists | keyExists | certContents | keyContents | install | record => cases unread

theorem Sound.certStamped (sound : node.Sound rustls) {stamp : Option Nat}
    (seen : (node.files .cert).Seen stamp) : (node.goOn (.keyMtime stamp)).Sound rustls := by
  apply sound.goOn
  · intro now reading file
    cases reading
    cases file with
    | cert => exact seen
    | key => exact Stamped.seen_none _
  · intro now loading
    cases loading
  · exact trivial

theorem Sound.changed (sound : node.Sound rustls) {cert stamp : Option Nat}
    {phase : Phase Certificate PrivateKey} (here : node.phase = .keyMtime cert)
    (seen : (node.files .key).Seen stamp) (differs : node.loaded ≠ some ⟨cert, stamp⟩)
    (looks : phase = .certExists ⟨cert, stamp⟩ ∨ phase = .certContents ⟨cert, stamp⟩) :
    (node.goOn phase).Sound rustls := by
  have first : phase.now = some ⟨cert, stamp⟩ ∧ (node.goOn phase).Carries rustls phase := by
    rcases looks with rfl | rfl
    · exact ⟨rfl, trivial⟩
    · exact ⟨rfl, trivial⟩
  apply sound.goOn
  · intro now reading file
    cases first.1.symm.trans reading
    cases file with
    | cert => exact sound.seen ⟨cert, none⟩ (.inl (by rw [here]; rfl)) .cert
    | key => exact seen
  · intro now loading
    cases first.1.symm.trans (loading_now loading)
    exact differs
  · exact first.2

theorem Sound.keyRead (sound : node.Sound rustls) {cert key : List UInt8}
    (here : node.phase = .keyContents now cert) (read : (node.files .key).contents = some key)
    (loads : serverConfig rustls cert key = .ok config) :
    (node.goOn (.install now config)).Sound rustls := by
  have loading : node.phase.Loading now := by rw [here]; rfl
  have carried := sound.carries
  rw [here] at carried
  apply sound.keepOn loading rfl
  intro mark marked
  have before : node.Marked mark := by
    rcases marked with reading | recorded
    · exact .inl ((loading_now loading).trans reading)
    · exact .inr recorded
  exact ⟨cert, key, loads, carried mark before, Stamped.holdsAt_of_read read mark.key⟩

theorem Sound.installed (sound : node.Sound rustls) (here : node.phase = .install now config) :
    Sound rustls { node.goOn (.record now) with service := some config } := by
  have carried := sound.carries
  rw [here] at carried
  have before : ∀ mark,
      Node.Marked { node.goOn (.record now) with service := some config } mark →
        node.Marked mark := by
    intro mark marked
    rcases marked with reading | recorded
    · exact .inl (by rw [here]; exact reading)
    · exact .inr recorded
  exact {
    seen := fun mark marked => sound.seen mark (before mark marked)
    differs := fun _ impossible => by cases impossible
    carries := ⟨config, rfl, fun mark marked => carried mark (before mark marked)⟩
    served := fun loaded recorded => ⟨config, rfl, carried loaded (.inr recorded)⟩ }

theorem Sound.recorded (sound : node.Sound rustls) (here : node.phase = .record now) :
    Sound rustls { node.goOn .asleep with loaded := some now } := by
  have carried := sound.carries
  rw [here] at carried
  obtain ⟨config, inService, built⟩ := carried
  have reading : node.Marked now := .inl (by rw [here]; rfl)
  exact {
    seen := by
      intro mark marked file
      rcases marked with impossible | recorded
      · cases impossible
      · cases recorded
        exact sound.seen now reading file
    differs := fun _ impossible => by cases impossible
    carries := trivial
    served := by
      intro loaded recorded
      cases recorded
      exact ⟨config, inService, built now reading⟩ }

theorem Sound.effect (sound : node.Sound rustls) (effect : Effect rustls node next) :
    next.Sound rustls := by
  cases effect with
  | woke here => exact sound.restart rfl
  | certStamped here seen => exact sound.certStamped seen
  | unchanged here same => exact sound.restart rfl
  | changed here seen differs looks => exact sound.changed here seen differs looks
  | found loading looks =>
      rcases looks with rfl | rfl
      · exact sound.keepOn loading rfl trivial
      · exact sound.keepOn loading rfl trivial
  | @certRead now cert here read =>
      have loading : node.phase.Loading now := by rw [here]; rfl
      apply sound.keepOn loading rfl
      intro mark _
      exact Stamped.holdsAt_of_read read mark.cert
  | keyRead here read loads => exact sound.keyRead here read loads
  | failed loading =>
      have asleep : (node.goOn .asleep).Sound rustls := sound.restart rfl
      exact ⟨asleep.seen, asleep.differs, trivial, asleep.served⟩
  | installed here => exact sound.installed here
  | recorded here => exact sound.recorded here

end Moves

section Runs

variable {log later : List Notice} {files : PairFile → PemFile} {first last : Node Certificate PrivateKey}

theorem sound_starting (files : PairFile → PemFile) :
    (starting files : Node Certificate PrivateKey).Sound rustls where
  seen := by
    intro mark marked
    rcases marked with impossible | impossible
    · cases impossible
    · cases impossible
  differs := fun _ impossible => by cases impossible
  carries := trivial
  served := fun _ impossible => by cases impossible

theorem effect_of_moved
    (taken : (machine rustls cfg).next node (.moved trouble) = some (next, notices)) :
    Effect rustls node next := by
  have result : next = (node.moved rustls cfg trouble).1 := by rw [Option.some.inj taken]
  rw [result]
  exact moved_effect trouble

theorem Sound.step (sound : node.Sound rustls) {event : Event} (permitted : FreshWrites log node event)
    (taken : (machine rustls cfg).next node event = some (next, notices)) : next.Sound rustls := by
  cases event with
  | wrote file mtime contents =>
      cases taken
      exact sound.wrote permitted
  | moved trouble => exact sound.effect (effect_of_moved taken)

theorem sound_of_run (run : Machine.Run (machine rustls cfg) FreshWrites [] (starting files) log node) :
    node.Sound rustls :=
  run.state_invariant (fun node => node.Sound rustls) (sound_starting files)
    fun _ _ _ _ _ sound permitted taken => sound.step permitted taken

variable (rustls node) in
def ServesCurrent : Prop :=
  ∃ cert key config, (node.files .cert).contents = some cert ∧
    (node.files .key).contents = some key ∧ serverConfig rustls cert key = .ok config ∧
    node.service = some config

theorem Sound.current (sound : node.Sound rustls) (recorded : node.loaded = some node.mtimes) :
    node.ServesCurrent rustls := by
  obtain ⟨config, inService, cert, key, loads, certHeld, keyHeld⟩ := sound.served _ recorded
  exact ⟨cert, key, config, certHeld rfl, keyHeld rfl, loads, inService⟩

def WithoutReplacing (log : List Notice) (node : Node Certificate PrivateKey) (event : Event) : Prop :=
  FreshWrites log node event ∧ ∀ trouble, event = .moved trouble → ¬node.phase.Replacing

theorem effect_kept (effect : Effect rustls node next) (loading : ¬node.phase.Replacing) :
    next.service = node.service ∧ next.loaded = node.loaded := by
  cases effect with
  | installed here =>
      rw [here] at loading
      exact absurd trivial loading
  | recorded here =>
      rw [here] at loading
      exact absurd trivial loading
  | woke | certStamped | unchanged | changed | found | certRead | keyRead | failed =>
      exact ⟨rfl, rfl⟩

theorem kept_of_run (run : Machine.Run (machine rustls cfg) WithoutReplacing log first later last) :
    last.service = first.service ∧ last.loaded = first.loaded := by
  apply run.state_invariant (fun node => node.service = first.service ∧ node.loaded = first.loaded)
    ⟨rfl, rfl⟩
  intro _ node event next notices same permitted taken
  cases event with
  | wrote file mtime contents =>
      cases taken
      exact same
  | moved trouble =>
      have kept := effect_kept (effect_of_moved taken) (permitted.2 trouble rfl)
      exact ⟨kept.1.trans same.1, kept.2.trans same.2⟩

variable (rustls cfg node) in
def quietly : Nat → Node Certificate PrivateKey
  | 0 => node
  | steps + 1 => ((quietly steps).moved rustls cfg none).1

variable (rustls cfg node) in
/-- A pair that does not load is tried again: a round that ends without it leaves what is in service
and what is recorded, mtimes that differ from the recorded ones begin another round that loads, and a
task that sleeps while they differ comes to begin one. -/
structure TriesAgain : Prop where
  kept : ∀ now trouble next notices, node.phase.Loading now →
    (machine rustls cfg).next node (.moved trouble) = some (next, notices) → next.phase = .asleep →
    next.service = node.service ∧ next.loaded = node.loaded ∧ next.loaded ≠ some now
  loads : ∀ cert trouble, node.phase = .keyMtime cert →
    node.loaded ≠ some ⟨cert, Tls.mtime (node.files .key) trouble⟩ →
    (node.moved rustls cfg trouble).1.phase.Loading ⟨cert, Tls.mtime (node.files .key) trouble⟩
  wakes : node.phase = .asleep → node.loaded ≠ some node.mtimes →
    (node.quietly rustls cfg 3).phase.Loading node.mtimes

theorem compared_loading (differs : node.loaded ≠ some now) : (node.compared now).phase.Loading now := by
  unfold compared
  split
  · rfl
  · rename_i loaded recorded
    split
    · rename_i same
      exact absurd (recorded.trans (congrArg some same.symm)) differs
    · rfl

theorem quietly_three (asleep : node.phase = .asleep) :
    node.quietly rustls cfg 3 = node.compared node.mtimes := by
  have woken : node.quietly rustls cfg 1 = node.goOn .certMtime := by
    simp only [quietly, moved, asleep]
  have stamped : node.quietly rustls cfg 2 = node.goOn (.keyMtime (node.files .cert).stamp) := by
    rw [quietly, woken]
    rfl
  rw [quietly, stamped]
  unfold compared
  rfl

theorem Sound.triesAgain (sound : node.Sound rustls) : node.TriesAgain rustls cfg where
  kept := by
    intro now trouble next notices loading taken asleep
    have kept := effect_kept (effect_of_moved taken) (not_replacing loading)
    exact ⟨kept.1, kept.2, kept.2 ▸ sound.differs now loading⟩
  loads := by
    intro cert trouble here differs
    simp only [moved, here]
    exact compared_loading differs
  wakes := by
    intro asleep differs
    rw [quietly_three asleep]
    exact compared_loading differs

/-- However the writes fall between the steps of the task: recorded mtimes that are the files' mean
that the files' pair is in service; and a pair that does not load changes neither what is in service
nor what is recorded, and is tried again. -/
theorem no_renewal_missed (rustls : Rustls Certificate PrivateKey) (cfg : TlsConfig)
    (files : PairFile → PemFile) (log : List Notice) (node : Node Certificate PrivateKey)
    (run : Machine.Run (machine rustls cfg) FreshWrites [] (starting files) log node) :
    (node.loaded = some node.mtimes → node.ServesCurrent rustls) ∧
      (∀ later after, Machine.Run (machine rustls cfg) WithoutReplacing log node later after →
        after.service = node.service ∧ after.loaded = node.loaded) ∧
      node.TriesAgain rustls cfg := by
  have sound := sound_of_run run
  exact ⟨sound.current, fun _ _ => kept_of_run, sound.triesAgain⟩

def plainPem : Rustls (List UInt8) (List UInt8) where
  pemSliceIter text := if text = [] then [] else [.ok text]
  fromPemSlice text := if text = [] then .error "no items found" else .ok text
  withProtocolVersions _ := .ok ()
  withSingleCert _ _ := .ok ()

def pairPaths : TlsConfig := ⟨"cert.pem", "key.pem"⟩

def renewal : List Event :=
  [.moved none, .moved none, .moved none, .wrote .cert 10 [1], .wrote .key 11 [2], .moved none,
    .moved none, .moved none, .moved none, .moved none, .moved none, .wrote .cert 20 [3],
    .moved none, .moved none, .moved none, .moved none, .moved none, .moved none, .moved none,
    .moved none, .moved none, .moved none]

def renewed (_ : List Notice) (node : Node (List UInt8) (List UInt8)) : Bool :=
  node.loaded == some ⟨some 20, some 11⟩ && node.loaded == some node.mtimes &&
    (node.service.map fun config => (config.certs, config.key)) == some ([[3]], [2])

theorem renewed_pair_served :
    ∃ log node, Machine.Run (machine plainPem pairPaths) FreshWrites [] (starting fun _ => ⟨[]⟩) log node ∧
      node.loaded = some node.mtimes ∧ node.ServesCurrent plainPem := by
  have executed : ((machine plainPem pairPaths).execute (fun log node event =>
      decide (FreshWrites log node event)) renewal [] (starting fun _ => ⟨[]⟩)).map
        (fun ended => renewed ended.1 ended.2) = some true := by
    decide +kernel
  have sound : ∀ log (node : Node (List UInt8) (List UInt8)) event,
      decide (FreshWrites log node event) = true → FreshWrites log node event :=
    fun _ _ _ checked => of_decide_eq_true checked
  obtain ⟨log, node, run, shown⟩ := Machine.execute_reaches sound renewal renewed executed
  simp only [renewed, Bool.and_eq_true, beq_iff_eq] at shown
  have recorded := shown.1.2
  exact ⟨log, node, run, recorded, (no_renewal_missed plainPem pairPaths _ log node run).1 recorded⟩

end Runs

end Node

end TdfIrohS3.Tls
