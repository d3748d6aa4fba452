import VpnUi.Panel.Operations

namespace VpnUi.Panel

open Foundation Address

/-! Copying clients from one inbound to another: each copied client is built
from its source, and a source without a subscription id is given one. -/

/-- The two requests copying makes, on a store that holds the inbounds. -/
structure ClientWriter (Store : Type*) where
  inbounds : Store → Inbounds
  addInboundClient : Store → Inbound → PanelHost → Except PanelError Store
  updateInboundClient :
    Store → Inbound → String → PanelHost → Except PanelError Store

def inboundWriter : ClientWriter Inbounds where
  inbounds := id
  addInboundClient := addInboundClient
  updateInboundClient := updateInboundClient

@[simp] theorem inboundWriter_inbounds (inbounds : Inbounds) :
    inboundWriter.inbounds inbounds = inbounds := rfl

@[simp] theorem inboundWriter_addInboundClient :
    inboundWriter.addInboundClient = addInboundClient := rfl

@[simp] theorem inboundWriter_updateInboundClient :
    inboundWriter.updateInboundClient = updateInboundClient := rfl

inductive CopyError
  | sameInbound
  | panel (error : PanelError)

def CopyError.text : CopyError → String
  | sameInbound => "source and target inbounds must be different\n"
  | panel error => error.text

def getClientPrimaryKey (protocol : Protocol) (client : Client) : String :=
  match protocol with
  | .trojan => client.password
  | .shadowsocks => client.email
  | .hysteria => client.auth
  | _ => client.id

/-- A request that gives an inbound id and clients only. -/
def clientsForm (id : Int) (clients : List Client) : Inbound where
  id := id
  listen := ""
  port := 0
  protocol := .other ""
  settings := .parsed (.obj [("clients", .arr (clients.map Client.encode))])
  enable := false
  tag := ""

def writeBackClientSubID {Store : Type*} (writer : ClientWriter Store)
    (store : Store) (source : Inbound) (client : Client) (subId : String)
    (host : PanelHost) : Except PanelError Store :=
  let renamed := { client with subId := subId, updatedAt := host.now }
  let clientId := getClientPrimaryKey source.protocol renamed
  if clientId = "" then .error .emptyClientId
  else
    writer.updateInboundClient store (clientsForm source.id [renamed]) clientId
      host

/-- A credential made of a new UUID. -/
def generateRandomCredential (target : Protocol) (uuid : String) : String :=
  match target with
  | .vmess | .vless => uuid
  | _ => String.ofList (uuid.toList.filter (· ≠ '-'))

def buildTargetClientFromSource (source : Client) (target : Protocol)
    (email flow uuid : String) (now : Int) : Client :=
  let credential := generateRandomCredential target uuid
  let blank : Client := { source with
    email := email
    createdAt := now
    updatedAt := now
    id := ""
    password := ""
    auth := ""
    flow := "" }
  match target with
  | .vmess => { blank with id := credential }
  | .vless =>
      { blank with
        id := credential
        flow :=
          if flow = "xtls-rprx-vision" ∨ flow = "xtls-rprx-vision-udp443"
          then flow else "" }
  | .trojan | .shadowsocks => { blank with password := credential }
  | .hysteria => { blank with auth := credential }
  | _ => { blank with id := credential }

/-- The first free one of base, base_1, base_2, ..; one of more candidates than
there are occupied e-mails is free. -/
def nextAvailableCopiedEmail (originalEmail : String) (targetId : Int)
    (occupied : List String) : String :=
  let base := originalEmail ++ "_" ++ toString targetId
  let candidate (suffix : Nat) : String :=
    if suffix = 0 then base else base ++ "_" ++ toString suffix
  (((List.range (occupied.length + 1)).map candidate).find?
    (toLower · ∉ occupied)).getD base

def trimQuotes (text : String) : String :=
  let open_ := text.toList.dropWhile (· = '"')
  String.ofList (open_.reverse.dropWhile (· = '"')).reverse

/-- The e-mails in use, in lower case. -/
def occupiedEmails (emails : List String) : List String :=
  ((emails.map trimQuotes).filter (· ≠ "")).map toLower

def allowedEmails (clientEmails : List String) : List String :=
  clientEmails.map fun email => toLower (trimText email)

/-- Whether a client of the source is to be copied. -/
def copies (clientEmails : List String) (client : Client) : Bool :=
  let originalEmail := trimText client.email
  originalEmail ≠ "" && (clientEmails = [] ||
    toLower originalEmail ∈ allowedEmails clientEmails)

structure CopyProgress (Store : Type*) where
  store : Store
  occupied : List String
  newClients : List Client
  added : List String
  errors : List String
  /-- How many UUIDs have been drawn. -/
  drawn : Nat

/-- What copying works with: the two inbounds as they were read, the flow asked
for, and the UUIDs to come. -/
structure CopyContext where
  source : Inbound
  target : Inbound
  flow : String
  uuid : Nat → String
  host : PanelHost

section Copy

variable {Store : Type*} (writer : ClientWriter Store) (context : CopyContext)

/-- Build the copy of a client that has a subscription id. -/
def buildCopy (progress : CopyProgress Store) (client : Client) :
    CopyProgress Store :=
  let email := nextAvailableCopiedEmail (trimText client.email)
    context.target.id progress.occupied
  { progress with
    occupied := progress.occupied ++ [toLower email]
    newClients := progress.newClients ++ [buildTargetClientFromSource client
      context.target.protocol email context.flow
      (context.uuid progress.drawn) context.host.now]
    added := progress.added ++ [email]
    drawn := progress.drawn + 1 }

def copyClient (progress : CopyProgress Store) (client : Client) :
    CopyProgress Store :=
  if client.subId = "" then
    let subId := context.uuid progress.drawn
    match writeBackClientSubID writer progress.store context.source client
        subId context.host with
    | .error error =>
        { progress with
          errors := progress.errors ++ [trimText client.email ++
            ": failed to write source subId: " ++ error.text]
          drawn := progress.drawn + 1 }
    | .ok store =>
        buildCopy context { progress with
          store := store
          drawn := progress.drawn + 1 } { client with subId := subId }
  else buildCopy context progress client

end Copy

/-- The clients of the source that are to be copied, gone through. -/
def copyAll {Store : Type*} (writer : ClientWriter Store)
    (context : CopyContext) (store : Store) (emails : List String)
    (selected : List Client) : CopyProgress Store :=
  selected.foldl (copyClient writer context)
    ⟨store, occupiedEmails emails, [], [], [], 0⟩

/-- What a call leaves behind, an error or not: the write-backs stay. -/
structure CopyOutcome (Store : Type*) where
  store : Store
  added : List String
  errors : List String
  error : Option CopyError

def copyInboundClients {Store : Type*} (writer : ClientWriter Store)
    (store : Store) (targetId sourceId : Int) (clientEmails : List String)
    (flow : String) (uuid : Nat → String) (host : PanelHost) :
    CopyOutcome Store :=
  let fail (error : CopyError) : CopyOutcome Store := ⟨store, [], [], error⟩
  if targetId = sourceId then fail .sameInbound
  else
    match (writer.inbounds store).find? targetId,
        (writer.inbounds store).find? sourceId with
    | some target, some source =>
        match getClients source.settings with
        | none => fail (.panel .nullSettings)
        | some [] => ⟨store, [], [], none⟩
        | some clients =>
            match getAllEmails (writer.inbounds store) with
            | none => fail (.panel .database)
            | some emails =>
                let copied := copyAll writer
                  ⟨source, target, flow, uuid, host⟩ store emails
                  (clients.filter (copies clientEmails))
                if copied.newClients = [] then
                  ⟨copied.store, copied.added, copied.errors, none⟩
                else
                  match writer.addInboundClient copied.store
                      (clientsForm targetId copied.newClients) host with
                  | .error error =>
                      ⟨copied.store, copied.added, copied.errors,
                        some (.panel error)⟩
                  | .ok next => ⟨next, copied.added, copied.errors, none⟩
    | _, _ => fail (.panel .notFound)

/-- What both requests of a call keep is kept by the call. -/
theorem copyInboundClients_invariant {Store : Type*}
    {writer : ClientWriter Store} {holds : Store → Prop}
    (adds : ∀ store data host next, holds store →
      writer.addInboundClient store data host = .ok next → holds next)
    (updates : ∀ store data clientId host next, holds store →
      writer.updateInboundClient store data clientId host = .ok next →
        holds next)
    {store : Store} {targetId sourceId : Int} {clientEmails : List String}
    {flow : String} {uuid : Nat → String} {host : PanelHost}
    (start : holds store) :
    holds (copyInboundClients writer store targetId sourceId clientEmails flow
      uuid host).store := by
  have copied : ∀ context progress client, holds progress.store →
      holds (copyClient writer context progress client).store := by
    intro context progress client here
    unfold copyClient
    split
    · dsimp only
      split
      · exact here
      next next written =>
        unfold writeBackClientSubID at written
        dsimp only at written
        split at written
        · cases written
        · exact updates _ _ _ _ _ here written
    · exact here
  have copiedAll : ∀ context (clients : List Client)
      (progress : CopyProgress Store), holds progress.store →
        holds (clients.foldl (copyClient writer context) progress).store := by
    intro context clients
    induction clients with
    | nil => exact fun _ here => here
    | cons client rest induction =>
        intro progress here
        exact induction _ (copied context progress client here)
  unfold copyInboundClients
  dsimp only
  split
  · exact start
  split
  next target source _ _ =>
    split
    · exact start
    · exact start
    next clients _ _ =>
      split
      · exact start
      next emails _ =>
        have last := copiedAll ⟨source, target, flow, uuid, host⟩
          (clients.filter (copies clientEmails))
          ⟨store, occupiedEmails emails, [], [], [], 0⟩ start
        split
        · exact last
        · split
          · exact last
          next next added => exact adds _ _ _ _ last added
  · exact start

/-- A call without an error has copied nothing, or has added the copies. -/
theorem copyInboundClients_cases {Store : Type*} {writer : ClientWriter Store}
    {store : Store} {targetId sourceId : Int} {clientEmails : List String}
    {flow : String} {uuid : Nat → String} {host : PanelHost}
    {outcome : CopyOutcome Store}
    (called : copyInboundClients writer store targetId sourceId clientEmails
      flow uuid host = outcome)
    (succeeded : outcome.error = none) :
    outcome.store = store ∨
      ∃ target source clients emails,
        targetId ≠ sourceId ∧
        (writer.inbounds store).find? targetId = some target ∧
        (writer.inbounds store).find? sourceId = some source ∧
        getClients source.settings = some clients ∧
        getAllEmails (writer.inbounds store) = some emails ∧
        let copied := copyAll writer ⟨source, target, flow, uuid, host⟩ store
          emails (clients.filter (copies clientEmails))
        (copied.newClients = [] ∧ outcome.store = copied.store) ∨
          (copied.newClients ≠ [] ∧ writer.addInboundClient copied.store
            (clientsForm targetId copied.newClients) host =
              .ok outcome.store) := by
  subst called
  unfold copyInboundClients at succeeded ⊢
  simp only at succeeded ⊢
  split at succeeded
  · cases succeeded
  next differ =>
    rw [if_neg differ]
    split at succeeded
    next target source foundTarget foundSource =>
      split at succeeded
      · cases succeeded
      next found => exact .inl rfl
      next clients notEmpty found =>
        split at succeeded
        · cases succeeded
        next emails foundEmails =>
          refine .inr ⟨target, source, clients, emails, differ, foundTarget,
            foundSource, found, foundEmails, ?_⟩
          split at succeeded
          next none => exact .inl ⟨none, by simp [none]⟩
          next some =>
            split at succeeded
            · cases succeeded
            next next added =>
              exact .inr ⟨some, by simp [some, added]⟩
    · cases succeeded

end VpnUi.Panel
