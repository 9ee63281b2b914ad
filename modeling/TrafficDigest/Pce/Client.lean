import TrafficDigest.Fetch
import TrafficDigest.Http
import TrafficDigest.Json.Reader
import TrafficDigest.Pce.Config
import TrafficDigest.Pce.Document
import TrafficDigest.Text

/-!
# Talking to a policy engine

The client asks a policy engine for its labels, its workloads and the flows of a query.

**Collections.**  Labels and workloads are collections.  One request gets a page of a collection;
when the reply announces more objects than the page holds, the client asks for a job that prepares
the whole collection, waits for the job, and gets its result.  A collection that is still short is
an error, so a directory is never made from a part.

**Flows.**  A traffic query is one request.  Flows whose verdict has an unknown word are left out.
-/

namespace TrafficDigest.Pce

open Http (Request Reply Response Session)

/-! ## Errors -/

/-- Why a policy engine could not be asked. -/
inductive ClientError where
  | unreachable (pce text : String)
  | unreadable (text : String)
  | refused (status : Nat) (what body : String)
  | badPage (path : String)
  | noJobLocation (path : String)
  | badJob (href : String)
  | jobFailed (path : String)
  | noJobResult (href : String)
  | badJobResult (path : String)
  | jobUnfinished (path : String)
  | shortCollection (path : String) (returned total : Nat)
  | badTraffic
  deriving DecidableEq, Repr

/-- How often a job is asked for its status. -/
def maxPolls : Nat := 360

/-- What stands for the complaint about a document that does not decode. -/
def undecodable : String := "<json>"

/-- What is reported about an error. -/
def ClientError.message : ClientError → String
  | unreachable pce text => "failed to reach PCE " ++ pce ++ ": " ++ text
  | unreadable text => text
  | refused status what body =>
    "PCE API error (" ++ Http.statusText status ++ ") on " ++ what ++ ": " ++ body
  | badPage path => "unexpected response from GET " ++ path ++ ": " ++ undecodable
  | noJobLocation path => "async GET " ++ path ++ " returned no job location"
  | badJob href => "unexpected job status from " ++ href ++ ": " ++ undecodable
  | jobFailed path => "async GET " ++ path ++ " failed on the PCE"
  | noJobResult href => "job " ++ href ++ " finished without a result"
  | badJobResult path => "unexpected async result for GET " ++ path ++ ": " ++ undecodable
  | jobUnfinished path =>
    "async GET " ++ path ++ " did not finish after " ++ toString maxPolls ++ " polls"
  | shortCollection path returned total =>
    "GET " ++ path ++ " returned " ++ toString returned ++ " of " ++ toString total ++ " objects"
  | badTraffic => "unexpected traffic query response: " ++ undecodable

/-- What a client does in a session. -/
abbrev ClientM := ExceptT ClientError (StateM Session)

/-! ## Headers -/

/-- The largest number that a header may announce. -/
def maxHeaderNumber : Nat := UInt64.size - 1

/-- The number in a header, with any blanks around it. -/
def headerNumber? (r : Response) (name : String) : Option Nat := do
  let value ← r.headerText? name
  Text.readUnsigned maxHeaderNumber (Text.trim value.toList)

/-- How many objects a collection has, if the reply says so. -/
def totalCount? (r : Response) : Option Nat := headerNumber? r "x-total-count"

/-- How many seconds to wait after a reply: what it asks for, but at least one and at most sixty;
five if it does not say. -/
def retryAfter (r : Response) : Nat := min (max ((headerNumber? r "retry-after").getD 5) 1) 60

/-! ## Requests -/

/-- **Sends a request with the credentials**, and fails unless the reply reports success.  The
request is called `what` in errors. -/
def send (c : Config) (request : Request) (what : String) : ClientM Response := do
  let reply ← (Session.send request ⟨c.user, c.key⟩ c.disableTlsVerification : StateM Session Reply)
  match reply with
  | .unsent text => throw (.unreachable c.displayName text)
  | .unreadable text => throw (.unreadable text)
  | .response r =>
    if Http.isSuccess r.status then return r else throw (.refused r.status what r.body)

/-- What a document decodes to, or an error. -/
def decodeOr {α : Type} (d : Json.Decoder α) (text : String) (e : ClientError) : ClientM α :=
  match (Json.read? text).bind d with
  | some a => return a
  | none => throw e

/-- The address of an href; one that names its scheme is an address itself. -/
def hrefUrl (root href : String) : String :=
  if href.startsWith "http://" || href.startsWith "https://" then href else root ++ href

/-! ## Collections -/

/-- The result of a job, which is a whole collection. -/
def jobResult {α : Type} (c : Config) (path jobHref : String) (d : Json.Decoder α) (j : Job) :
    ClientM (List α) := do
  match j.result with
  | none => throw (.noJobResult jobHref)
  | some href =>
    let r ← send c { method := .get, url := hrefUrl c.apiRoot href } href
    decodeOr (.list d) r.body (.badJobResult path)

/-- **Waits for a job and gets its result**, asking for its status at most `polls` times and
waiting before each time as long as the reply before it asked for. -/
def awaitJob {α : Type} (c : Config) (path jobHref : String) (d : Json.Decoder α) :
    (polls seconds : Nat) → ClientM (List α)
  | 0, _ => throw (.jobUnfinished path)
  | polls + 1, seconds => do
    (Session.wait seconds : StateM Session Unit)
    let r ← send c { method := .get, url := hrefUrl c.apiRoot jobHref } jobHref
    let j ← decodeOr job.decode r.body (.badJob jobHref)
    if j.isFailed then throw (.jobFailed path)
    else if j.isDone then jobResult c path jobHref d j
    else awaitJob c path jobHref d polls (retryAfter r)

/-- The whole collection by way of a job. -/
def wholeCollection {α : Type} (c : Config) (path : String) (d : Json.Decoder α) :
    ClientM (List α) := do
  let r ← send c
    { method := .get, url := c.baseUrl ++ path, headers := [("Prefer", "respond-async")] } path
  match r.headerText? "location" with
  | none => throw (.noJobLocation path)
  | some jobHref => awaitJob c path jobHref d maxPolls (retryAfter r)

/-- **A whole collection:** the page, if the reply announces no more than it holds, and otherwise
what the job prepares. -/
def collection {α : Type} (c : Config) (path : String) (d : Json.Decoder α) :
    ClientM (List α) := do
  let r ← send c
    { method := .get, url := c.baseUrl ++ path, query := [("max_results", "100000")] } path
  let page ← decodeOr (.list d) r.body (.badPage path)
  match totalCount? r with
  | none => return page
  | some total =>
    if total ≤ page.length then return page
    else
      let whole ← wholeCollection c path d
      if whole.length < total then throw (.shortCollection path whole.length total)
      else return whole

/-- The labels that the policy engine knows. -/
def labels (c : Config) : ClientM LabelDirectory := do
  let ls ← collection c "/labels" label.decode
  return .ofList ls

/-- The workloads that the policy engine knows. -/
def workloads (c : Config) : ClientM WorkloadDirectory := do
  let ws ← collection c "/workloads" workload.decode
  return .ofList ws

/-! ## Flows -/

/-- The records of the flows whose verdict is understood. -/
def recordsOf (flows : List ObservedFlow) : List FlowRecord :=
  flows.filterMap fun f => f.toRecord.toOption

/-- **The flows of a query.** -/
def traffic (c : Config) (q : FlowQuery) : ClientM (List FlowRecord) := do
  let url := c.baseUrl ++ "/traffic_flows/traffic_analysis_queries"
  let r ← send c { method := .post, url, body := some (queryBody q) } "traffic query"
  let flows ← decodeOr (.list observedFlow.decode) r.body .badTraffic
  return recordsOf flows

/-- The policy engine as a source of flows. -/
def source (c : Config) : Source Session := fun q =>
  ExceptT.mk do
    let result ← (traffic c q).run
    return result.mapError fun e => .sourceFailure e.message

/-! ## Calls -/

/-- What a client is asked to do. -/
inductive Call where
  | labels
  | workloads
  | traffic (q : FlowQuery)
  | fetch (settings : Fetch.Settings) (qs : List FlowQuery)

/-- What comes of a call. -/
inductive Answer where
  | labels (result : Except ClientError LabelDirectory)
  | workloads (result : Except ClientError WorkloadDirectory)
  | traffic (result : Except ClientError (List FlowRecord))
  | fetch (result : Except FlowError Fetch.Outcome)

/-- **Does what is asked.**  In a session the requests of a fetch go out and are answered one after
the other, in the order of sending, whatever the concurrency of its settings. -/
def Call.run (c : Config) : Call → StateM Session Answer
  | .labels => .labels <$> (Pce.labels c).run
  | .workloads => .workloads <$> (Pce.workloads c).run
  | .traffic q => .traffic <$> (Pce.traffic c q).run
  | .fetch settings qs => .fetch <$> (Fetch.fetchAll (source c) settings qs).run

/-- Does what is asked, one call after the other. -/
def runAll (c : Config) (calls : List Call) : StateM Session (List Answer) :=
  calls.mapM (Call.run c)

end TrafficDigest.Pce
