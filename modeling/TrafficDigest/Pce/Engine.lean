import TrafficDigest.Pce.Document

/-!
# The other side of a traffic query

What a policy engine takes the body of a traffic query to ask for, and the page of flows that it
answers with.  `ask` decodes a body; it knows more than the client makes use of, such as several
groups on a side.  `Ask.page` is the answer: the first of the flows that are asked for, in the order
in which the engine holds them, as many as are asked for.
-/

namespace TrafficDigest.Pce

open Json (Decoder RecordDecoder)
open Json.RecordDecoder (required)

/-! ## What is asked for -/

/-- Endpoints on one side of a flow, by the hrefs of their labels. -/
structure EndpointFilter where
  /-- Alternatives, of which an endpoint has to carry all labels of one. -/
  anyOf : List (List String)
  /-- Labels that an endpoint must not carry. -/
  noneOf : List String
  deriving DecidableEq, Repr

/-- Services. -/
structure ServiceFilter where
  /-- The services that are asked for; all, if there are none. -/
  only : List ServicePort
  /-- Services that are left out. -/
  except : List ServicePort
  deriving DecidableEq, Repr

/-- How many sides of a flow have to be as they are asked for. -/
inductive Sides where
  | both
  | either
  deriving DecidableEq, Repr

/-- **What a traffic query asks for.** -/
structure Ask where
  sources : EndpointFilter
  destinations : EndpointFilter
  services : ServiceFilter
  sides : Sides
  /-- The first instant of the window. -/
  start : Instant
  /-- The instant that ends the window. -/
  stop : Instant
  verdicts : List Verdict
  /-- How many flows the answer may have. -/
  maxResults : Nat
  deriving DecidableEq, Repr

/-! ## Decoding a body -/

/-- A label that an endpoint is to carry, by its href. -/
def actor : RecordDecoder String := required "label" href.decode

/-- The filter for one side. -/
def endpointFilter : RecordDecoder EndpointFilter :=
  EndpointFilter.mk <$> required "include" (.list (.list actor.decode)) <*>
    required "exclude" (.list actor.decode)

/-- A service as a member of a list. -/
def listedService : RecordDecoder ServicePort :=
  ServicePort.mk <$> required "port" .port <*> required "proto" .octet

/-- The filter for services. -/
def serviceFilter : RecordDecoder ServiceFilter :=
  ServiceFilter.mk <$> required "include" (.list listedService.decode) <*>
    required "exclude" (.list listedService.decode)

/-- The word for how many sides count. -/
def sides : Decoder Sides := fun v => do
  let word ← Decoder.text v
  [("and", Sides.both), ("or", Sides.either)].lookup word

/-- The word for a verdict, in any case. -/
def decision : Decoder Verdict := fun v => do
  let word ← Decoder.text v
  (Verdict.parse word).toOption

/-- A natural number without an upper bound. -/
def count : Decoder Nat
  | .number literal => Text.readDigits literal.toList
  | _ => none

/-- **What the body of a traffic query asks for.** -/
def ask : RecordDecoder Ask :=
  Ask.mk <$> required "sources" endpointFilter.decode <*>
    required "destinations" endpointFilter.decode <*>
    required "services" serviceFilter.decode <*>
    required "sources_destinations_query_op" sides <*> required "start_date" .instant <*>
    required "end_date" .instant <*> required "policy_decisions" (.list decision) <*>
    required "max_results" count

/-! ## Answering -/

/-- An endpoint is one of those asked for. -/
def EndpointFilter.admits (f : EndpointFilter) (e : Endpoint) : Bool :=
  f.anyOf.any (fun labels => labels.all e.carries) && !f.noneOf.any e.carries

/-- A service is one of those asked for. -/
def ServiceFilter.admits (f : ServiceFilter) (s : ServicePort) : Bool :=
  (f.only.isEmpty || f.only.contains s) && !f.except.contains s

/-- One side of a flow, or both, are as they are asked for. -/
def Ask.admitsEnds (a : Ask) (f : ObservedFlow) : Bool :=
  match a.sides with
  | .both => a.sources.admits f.src && a.destinations.admits f.dst
  | .either => a.sources.admits f.src || a.destinations.admits f.dst

/-- **A flow is one of those asked for.**  What counts for the window is when it was first seen. -/
def Ask.admits (a : Ask) (f : ObservedFlow) : Bool :=
  a.start ≤ f.seen.1 && f.seen.1 < a.stop &&
    (Verdict.parse f.decision).toOption.any a.verdicts.contains && a.admitsEnds f &&
    a.services.admits f.service

/-- **The page that answers a query**, from the flows that the engine holds. -/
def Ask.page (a : Ask) (flows : List ObservedFlow) : List ObservedFlow :=
  (flows.filter a.admits).take a.maxResults

end TrafficDigest.Pce
