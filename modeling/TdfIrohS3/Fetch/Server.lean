import TdfIrohS3.Catalog.Handlers

namespace TdfIrohS3

open Library

inductive Object
  | blob
  | catalogDocument (owner : Option String)
  deriving DecidableEq, Repr

structure Servable where
  size : Nat
  object : Object
  deriving DecidableEq, Repr

inductive CheckRefusal
  | gone
  | busy
  deriving DecidableEq, Repr

/-- `ERR_PERMISSION` is final, `ERR_LIMIT` means try again. -/
inductive ResetCode
  | permission
  | limit
  deriving DecidableEq, Repr

structure Reset where
  code : ResetCode
  why : String
  hash : Option String
  deriving DecidableEq, Repr

def CheckRefusal.reset (hash : String) : CheckRefusal → Reset
  | .gone => ⟨.permission, "not in storage", some hash⟩
  | .busy => ⟨.limit, "storage not ready", some hash⟩

/-- A pair of hashes for each parent over the chunk groups. -/
def pairedTree : BaoTree where
  outboardSize size := (max 1 ((size + 16383) / 16384) - 1) * 64

namespace Object

def data (bucket : Bucket) (hash : String) : Object → Option (List UInt8)
  | .blob => bucket.blobs.get hash
  | .catalogDocument _ => (bucket.documents.get hash).map CatalogDocument.body

def outboard (bucket : Bucket) (hash : String) : Object → Option (List UInt8)
  | .blob => bucket.outboards.get hash
  | .catalogDocument _ => bucket.catalogOutboards.get hash

def putOutboard (bucket : Bucket) (hash : String) (bytes : List UInt8) : Object → Bucket
  | .blob => { bucket with outboards := bucket.outboards.insert hash bytes }
  | .catalogDocument _ =>
      { bucket with catalogOutboards := bucket.catalogOutboards.insert hash bytes }

def hidden (node : V2State) : Object → Bool
  | .blob => false
  | .catalogDocument owner => node.ownerHidden owner

end Object

structure S3Server where
  servable : Table String Servable
  backfilling : Table String Unit
  corrupt : Table String Unit
  /-- When an outboard computation failed, in nanoseconds. -/
  backfillFailed : Table String Nat

namespace S3Server

/-- `BACKFILL_COOLDOWN`, in nanoseconds. -/
def backfillCooldown : Nat := 600 * 1000000000

def badCapacity : Nat := 10000

def backfills : Nat := 2

def sizesCapacity : Nat := 100000

def new : S3Server :=
  { servable := Table.empty, backfilling := Table.empty, corrupt := Table.empty,
    backfillFailed := Table.empty }

/-- `check` without S3; `none` is a hash that has to be looked up. -/
def known (server : S3Server) (hash : String) : Option (Except CheckRefusal Servable) :=
  if server.corrupt.contains hash then some (.error .gone)
  else (server.servable.get hash).map .ok

def remember (server : S3Server) (hash : String) (servable : Servable) : S3Server :=
  let known := if server.servable.len ≥ sizesCapacity then Table.empty else server.servable
  { server with servable := known.insert hash servable }

def forget (server : S3Server) (hash : String) : S3Server :=
  { server with servable := server.servable.remove hash }

def markCorrupt (server : S3Server) (hash : String) : S3Server :=
  let corrupt := if server.corrupt.len ≥ badCapacity then Table.empty else server.corrupt
  { server with corrupt := corrupt.insert hash (), servable := server.servable.remove hash }

/-- `backfill` up to the spawned task: `none` when it does not start one. -/
def backfill (server : S3Server) (hash : String) (now : Nat) : Option S3Server :=
  if (server.backfillFailed.get hash).any fun failed => now - failed < backfillCooldown then none
  else if server.backfilling.len ≥ backfills then none
  else if server.backfilling.contains hash then none
  else some { server with backfilling := server.backfilling.insert hash () }

def endBackfill (server : S3Server) (hash : String) : S3Server :=
  { server with backfilling := server.backfilling.remove hash }

def failBackfill (server : S3Server) (hash : String) (now : Nat) : S3Server :=
  let failed :=
    if server.backfillFailed.len ≥ badCapacity then
      server.backfillFailed.retain fun _ failed => now - failed < backfillCooldown
    else server.backfillFailed
  { server.endBackfill hash with backfillFailed := failed.insert hash now }

theorem get_remember {server : S3Server} {hash other : String} {servable found : Servable}
    (held : (server.remember hash servable).servable.get other = some found) :
    (other = hash ∧ found = servable) ∨ server.servable.get other = some found := by
  unfold remember at held
  rw [Table.get_insert] at held
  split at held
  · rename_i same
    exact .inl ⟨same, (Option.some.inj held).symm⟩
  · split at held
    · cases held
    · exact .inr held

theorem get_remove {table : Table String Servable} {hash other : String} {found : Servable}
    (held : (table.remove hash).get other = some found) : table.get other = some found := by
  rw [Table.get_remove] at held
  split at held
  · cases held
  · exact held

theorem known_ok {server : S3Server} {hash : String} {servable : Servable}
    (found : server.known hash = some (.ok servable)) : server.servable.get hash = some servable := by
  unfold known at found
  split at found
  · cases found
  · simpa using found

end S3Server

section Walk

inductive Stop
  | refused (reset : Reset)
  | waiting (hash : String) (rest : List String)
  | ready
  deriving DecidableEq, Repr

def clear (node : V2State) (hash : String) (servable : Servable)
    (rest : List (String × Servable) × Stop) : List (String × Servable) × Stop :=
  if servable.object.hidden node then ([], .refused ⟨.permission, "hidden catalog", some hash⟩)
  else ((hash, servable) :: rest.1, rest.2)

def walk (node : V2State) (server : S3Server) : List String → List (String × Servable) × Stop
  | [] => ([], .ready)
  | hash :: rest =>
      if node.isBlocked hash then ([], .refused ⟨.permission, "blocked content", some hash⟩)
      else
        match server.known hash with
        | none => ([], .waiting hash rest)
        | some (.error refusal) => ([], .refused (refusal.reset hash))
        | some (.ok servable) => clear node hash servable (walk node server rest)

theorem clear_passed {node : V2State} {hash : String} {servable : Servable}
    {rest : List (String × Servable) × Stop} {entry : String × Servable}
    (passed : entry ∈ (clear node hash servable rest).1) :
    (entry = (hash, servable) ∧ servable.object.hidden node = false) ∨ entry ∈ rest.1 := by
  unfold clear at passed
  split at passed
  · cases passed
  · rename_i visible
    rcases List.mem_cons.mp passed with rfl | later
    · exact .inl ⟨rfl, by simpa using visible⟩
    · exact .inr later

theorem walk_passed {node : V2State} {server : S3Server} {hashes : List String}
    {entry : String × Servable} (passed : entry ∈ (walk node server hashes).1) :
    server.servable.get entry.1 = some entry.2 ∧ entry.2.object.hidden node = false := by
  induction hashes with
  | nil => cases passed
  | cons hash rest ih =>
      rw [walk] at passed
      split at passed
      · cases passed
      · split at passed
        · cases passed
        · cases passed
        · rename_i servable known
          rcases clear_passed passed with ⟨rfl, visible⟩ | later
          · exact ⟨S3Server.known_ok known, visible⟩
          · exact ih later

def Stop.left : Stop → List String
  | .waiting hash rest => hash :: rest
  | _ => []

theorem clear_covers {node : V2State} {hash : String} {servable : Servable}
    {rest : List (String × Servable) × Stop}
    (going : ∀ reset, (clear node hash servable rest).2 ≠ .refused reset) :
    clear node hash servable rest = ((hash, servable) :: rest.1, rest.2) := by
  unfold clear at going ⊢
  split
  · rename_i hides
    exact absurd (by rw [if_pos hides]) (going ⟨.permission, "hidden catalog", some hash⟩)
  · rfl

/-- A walk that is not refused clears every hash, up to the one it waits for. -/
theorem walk_covers {node : V2State} {server : S3Server} {hashes : List String}
    (going : ∀ reset, (walk node server hashes).2 ≠ .refused reset) :
    ((walk node server hashes).1.map Prod.fst) ++ (walk node server hashes).2.left = hashes := by
  induction hashes with
  | nil => rfl
  | cons hash rest ih =>
      rw [walk] at going ⊢
      split
      · rename_i blocked
        exact absurd (by rw [if_pos blocked]) (going ⟨.permission, "blocked content", some hash⟩)
      · rename_i allowed
        rw [if_neg allowed] at going
        split
        · rfl
        · rename_i refusal known
          rw [known] at going
          exact absurd rfl (going (refusal.reset hash))
        · rename_i servable known
          rw [known] at going
          change ∀ reset, (clear node hash servable (walk node server rest)).2 ≠ _ at going
          have whole := clear_covers going
          rw [whole] at going ⊢
          rw [List.map_cons, List.cons_append, ih going]

end Walk

section Document

def ifNoneMatch (headers : Headers) (etag : String) : Bool :=
  (((headers.getAll "if-none-match").filterMap Headers.toStr).flatMap fun v =>
    (Text.split v ',').map Text.trim).any fun t =>
      t == "*" || (Text.stripPrefix t "W/").getD t == etag

inductive DocumentAnswer
  | notModified
  | found (body : List UInt8)
  deriving DecidableEq, Repr

def getCatalogDocument (node : V2State) (bucket : Bucket) (hash : String) (headers : Headers) :
    Except Refusal DocumentAnswer :=
  if !isLowerHexHash hash then .error ⟨400, "invalid hash"⟩
  else if node.isBlocked hash then .error catalogNotFound
  else
    match bucket.documents.get hash with
    | none => .error catalogNotFound
    | some document =>
        if node.ownerHidden document.owner then .error catalogNotFound
        else if ifNoneMatch headers ("\"" ++ hash ++ "\"") then .ok .notModified
        else .ok (.found document.body)

end Document

end TdfIrohS3
