import TdfIrohS3.Auth.Evaluations
import TdfIrohS3.Auth.ServiceToken
import TdfIrohS3.Library.Slots

namespace TdfIrohS3

open Library

section Origins

def trimStartMatches (text : String) (c : Char) : String :=
  String.ofList (text.toList.dropWhile fun found => found == c)

def trimEndMatches (text : String) (c : Char) : String :=
  String.ofList (text.toList.reverse.dropWhile fun found => found == c).reverse

inductive IpAddr
  | v4 (a b c d : UInt8)
  | v6 (bits : BitVec 128)
  deriving DecidableEq, Repr

def IpAddr.isLoopback : IpAddr → Bool
  | .v4 a _ _ _ => a == 127
  | .v6 bits => bits == 1

structure Url where
  scheme : String
  host : Option String
  portOrKnownDefault : Option Nat
  deriving DecidableEq, Repr

structure UrlPlatform where
  parse : String → Option Url
  parseIp : String → Option IpAddr

variable (platform : UrlPlatform)

def httpsOrLoopback (url : String) : Bool :=
  match platform.parse url with
  | none => false
  | some parsed =>
      match parsed.scheme with
      | "https" => true
      | "http" => parsed.host.any fun host =>
          host == "localhost" ||
            (platform.parseIp (trimEndMatches (trimStartMatches host '[') ']')).any IpAddr.isLoopback
      | _ => false

def sameOrigin (url base : String) : Bool :=
  match platform.parse url, platform.parse base with
  | some url, some base => url.scheme == base.scheme && url.host == base.host &&
      url.portOrKnownDefault == base.portOrKnownDefault
  | _, _ => false

end Origins

inductive DiscoveryAnswer
  | unsent
  | rejected (status : Nat)
  | unreadable
  | document (accessEvaluationsEndpoint : Option String)
  deriving DecidableEq, Repr

/-- Where a call of `decide` is: discovery is asked, the token for the next batch is to be had, or the
batch is posted. -/
inductive DecidePhase
  | discovering
  | minting (url : String)
  | posting (url : String) (body : Value)

structure DecideTask where
  req : DecisionRequest
  batches : List (List (String × List String))
  decisions : Decisions
  phase : DecidePhase

structure AuthZenClient where
  endpoint : String
  credential : ServiceCredential
  tokenCache : Option CachedToken
  evaluationsUrl : Option String
  tasks : Nat → Option DecideTask
  nextId : Nat

inductive DecideEvent
  | decide (req : DecisionRequest)
  | discovered (id : Nat) (answer : DiscoveryAnswer)
  | bearer (id : Nat) (call : BearerCall)
  | answered (id : Nat) (answer : PostAnswer)

inductive DecideNotice
  /-- The batch is posted, with the service token if there is one. -/
  | posted (id : Nat) (url : String) (token : Option String) (body : Value)
  | answered (id : Nat) (url : String) (body tree : Value)
  | decided (id : Nat) (req : DecisionRequest) (decisions : Decisions)
  | failed (id : Nat) (why : String)
  deriving DecidableEq

def BearerOutcome.token : BearerOutcome → Except String (Option String)
  | .bare => .ok none
  | .static token | .cached token => .ok (some token)
  | .minted response => .ok (some response.accessToken)
  | .failed why => .error why
  | .panicked => .error "panicked"

namespace AuthZenClient

def new (endpoint : String) (credential : ServiceCredential) : AuthZenClient :=
  { endpoint := trimEndMatches endpoint '/', credential, tokenCache := none, evaluationsUrl := none,
    tasks := fun _ => none, nextId := 0 }

def setTask (client : AuthZenClient) (id : Nat) (task : Option DecideTask) : AuthZenClient :=
  { client with tasks := Function.update client.tasks id task }

def fail (client : AuthZenClient) (id : Nat) (why : String) :
    Option (AuthZenClient × List DecideNotice) :=
  some (client.setTask id none, [.failed id why])

section Next

variable (platform : UrlPlatform) (last : Nat)

/-- The URL of a discovery document, if the service token may be posted to it. -/
def discoveredUrl (client : AuthZenClient) : DiscoveryAnswer → Except String String
  | .unsent => .error ("AuthZEN discovery GET " ++ client.endpoint ++
      "/.well-known/authzen-configuration")
  | .rejected status => .error ("AuthZEN discovery returned " ++ toString status)
  | .unreadable => .error "AuthZEN discovery JSON"
  | .document found =>
      match found.filter fun url => url != "" with
      | none => .error "discovery missing access_evaluations_endpoint"
      | some url =>
          if sameOrigin platform url client.endpoint then
            if httpsOrLoopback platform url then .ok url
            else .error ("discovered access_evaluations_endpoint " ++ url ++ " is not https")
          else .error ("discovered access_evaluations_endpoint " ++ url ++ " is not on " ++
            client.endpoint)

def merge (client : AuthZenClient) (id : Nat) (task : DecideTask) (url : String)
    (part : Decisions) (rest : List (List (String × List String))) :
    AuthZenClient × List DecideNotice :=
  let decisions := part ++ task.decisions
  if rest.isEmpty then (client.setTask id none, [.decided id task.req decisions])
  else (client.setTask id (some ⟨task.req, rest, decisions, .minting url⟩), [])

def next (client : AuthZenClient) :
    DecideEvent → Option (AuthZenClient × List DecideNotice)
  | .decide req =>
      let started := { client with nextId := client.nextId + 1 }
      if req.resources.isEmpty then some (started, [.decided client.nextId req []])
      else
        let phase := (client.evaluationsUrl.map DecidePhase.minting).getD .discovering
        some (started.setTask client.nextId
          (some ⟨req, req.resources.toChunks DecisionService.maxEvaluations, [], phase⟩), [])
  | .discovered id answer =>
      match client.tasks id with
      | some ⟨req, batches, decisions, .discovering⟩ =>
          match client.discoveredUrl platform answer with
          | .error why => client.fail id why
          | .ok url =>
              some ({ client with evaluationsUrl := some url }.setTask id
                (some ⟨req, batches, decisions, .minting url⟩), [])
      | _ => none
  | .bearer id call =>
      match client.tasks id with
      | some ⟨req, batch :: rest, decisions, .minting url⟩ =>
          -- the body is built first
          match buildAuthzenRequest (DecisionService.forBatch req batch) with
          | .error why => client.fail id why
          | .ok body =>
              let ended := serviceBearer last client.credential client.tokenCache call
              let client := { client with tokenCache := ended.2 }
              match ended.1.token with
              | .error why => client.fail id why
              | .ok token =>
                  some (client.setTask id (some ⟨req, batch :: rest, decisions, .posting url body⟩),
                    [.posted id url token body])
      | _ => none
  | .answered id answer =>
      match client.tasks id with
      | some ⟨req, batch :: rest, decisions, .posting url body⟩ =>
          match answer with
          | .unsent => client.fail id ("AuthZEN POST " ++ url)
          | .rejected status => client.fail id ("AuthZEN evaluations returned " ++ toString status)
          | .unreadable => client.fail id "AuthZEN response JSON"
          | .answered tree =>
              match readEvaluationsResponse tree with
              | none => client.fail id "AuthZEN response JSON"
              | some evaluations =>
                  match mapEvaluations batch evaluations with
                  | .error why => client.fail id why
                  | .ok part =>
                      let merged := client.merge id
                        ⟨req, batch :: rest, decisions, .posting url body⟩ url part rest
                      some (merged.1, merged.2 ++ [.answered id url body tree])
      | _ => none

end Next

end AuthZenClient

/-- Any number of decisions at once on one client, over a network that answers what it likes.
`AuthZenClient` follows no redirects. -/
def decisionClient (platform : UrlPlatform) (last : Nat) :
    Machine AuthZenClient DecideEvent DecideNotice :=
  ⟨AuthZenClient.next platform last⟩

end TdfIrohS3
