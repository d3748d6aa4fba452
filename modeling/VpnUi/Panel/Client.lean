import VpnUi.Panel.VpnRange

namespace VpnUi.Panel

open Foundation

/-! The clients inside the settings of an inbound, and the checks that their
e-mails and usernames are new. -/

structure Client where
  id : String
  security : String
  password : String
  flow : String
  auth : String
  email : String
  limitIp : Int
  totalGB : Int
  expiryTime : Int
  enable : Bool
  tgId : Int
  subId : String
  comment : String
  reset : Int
  createdAt : Int
  updatedAt : Int
  deriving DecidableEq

namespace Client

def decode (fields : JsonObject) : Decoded Client :=
  (Decoded.record Client.mk).field (fields.get "id").text
    |>.field (fields.get "security").text
    |>.field (fields.get "password").text
    |>.field (fields.get "flow").text
    |>.field (fields.get "auth").text
    |>.field (fields.get "email").text
    |>.field (fields.get "limitIp").number
    |>.field (fields.get "totalGB").number
    |>.field (fields.get "expiryTime").number
    |>.field (fields.get "enable").flag
    |>.field (fields.get "tgId").number
    |>.field (fields.get "subId").text
    |>.field (fields.get "comment").text
    |>.field (fields.get "reset").number
    |>.field (fields.get "created_at").number
    |>.field (fields.get "updated_at").number

/-- A text field with omitempty. -/
def textField (key text : String) : JsonObject :=
  if text = "" then [] else [(key, .str text)]

def numberField (key : String) (number : Int) : JsonObject :=
  if number = 0 then [] else [(key, .int number)]

def encode (client : Client) : Json :=
  .obj (textField "id" client.id ++
    [("security", .str client.security)] ++
    textField "password" client.password ++
    textField "flow" client.flow ++
    textField "auth" client.auth ++
    [("email", .str client.email),
      ("limitIp", .int client.limitIp),
      ("totalGB", .int client.totalGB),
      ("expiryTime", .int client.expiryTime),
      ("enable", .bool client.enable),
      ("tgId", .int client.tgId),
      ("subId", .str client.subId),
      ("comment", .str client.comment),
      ("reset", .int client.reset)] ++
    numberField "created_at" client.createdAt ++
    numberField "updated_at" client.updatedAt)

end Client

/-- The names an account logs in with. -/
structure Login where
  id : String
  email : String
  deriving DecidableEq

def Login.decode (fields : JsonObject) : Decoded Login :=
  (Decoded.record Login.mk).field (fields.get "id").text
    |>.field (fields.get "email").text

/-- Every login of the settings, an ill-typed name being empty. -/
def logins (settings : JsonText) : List Login :=
  (Json.list (Json.record Login.decode) (settings.fields.get "clients")).value

/-- Ill-typed parts are ignored; only the null settings are an error. -/
def getClients : JsonText → Option (List Client)
  | .parsed .null => none
  | settings =>
      some (Json.list (Json.record Client.decode)
        (settings.fields.get "clients")).value

mutual

/-- The text SQLite gives for an extracted array or object. -/
def jsonText : Json → String
  | .null => "null"
  | .bool true => "true"
  | .bool false => "false"
  | .int number => toString number
  | .real literal => literal
  | .str text => Address.quote text
  | .arr items => "[" ++ jsonItems items ++ "]"
  | .obj fields => "\x7b" ++ jsonFields fields ++ "\x7d"

def jsonItems : List Json → String
  | [] => ""
  | [item] => jsonText item
  | item :: items => jsonText item ++ "," ++ jsonItems items

def jsonFields : List (String × Json) → String
  | [] => ""
  | [(key, value)] => Address.quote key ++ ":" ++ jsonText value
  | (key, value) :: fields =>
      Address.quote key ++ ":" ++ jsonText value ++ "," ++ jsonFields fields

end

/-- What the rows of JSON_EACH are; a text is not parsed again. -/
def jsonEach : Json → Option (List Json)
  | .null => some []
  | .arr items => some items
  | .obj fields => some (fields.map Prod.snd)
  | .str _ => none
  | scalar => some [scalar]

/-- JSON_EXTRACT(client.value, '$.key') scanned into a string: a NULL does not
scan. -/
def jsonColumn (key : String) : Json → Option String
  | .obj fields =>
      match JsonObject.get fields key with
      | .null => none
      | .bool value => some (if value then "1" else "0")
      | .str text => some text
      | value => some (jsonText value)
  | _ => none

/-- One column of the clients of an inbound; malformed settings are an SQL
error. -/
def clientColumn (key : String) (inbound : Inbound) : Option (List String) :=
  match inbound.settings with
  | .parsed (.obj fields) => do
      let clients ← jsonEach (JsonObject.get fields "clients")
      clients.mapM (jsonColumn key)
  | .parsed _ => some []
  | _ => none

def getAllEmails (inbounds : Inbounds) : Option (List String) :=
  (inbounds.rows.mapM (clientColumn "email")).map List.flatten

def getAllPPPUsernames (inbounds : Inbounds) (protocol : Protocol) :
    Option (List String) :=
  ((inbounds.ofProtocol protocol).mapM (clientColumn "id")).map List.flatten

/-- `strings.ToLower` on ASCII letters. -/
def toLower (text : String) : String :=
  String.ofList (text.toList.map Char.toLower)

def contains (names : List String) (name : String) : Bool :=
  names.any fun other => toLower other = toLower name

/-- The first non-empty name that repeats an earlier or a stored one. -/
def firstDuplicate (stored : List String) :
    List String → List String → Option String
  | _, [] => none
  | seen, name :: rest =>
      if name = "" then firstDuplicate stored seen rest
      else if contains seen name || contains stored name then some name
      else firstDuplicate stored (seen ++ [name]) rest

end VpnUi.Panel
