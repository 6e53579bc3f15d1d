import PgConsole.Base64
import PgConsole.Connection.Params
import PgConsole.FileTree
import PgConsole.Text.Search

namespace PgConsole.Wire

/-!
# Certificates and keys of a connection

Before a protected connection is made, its certificate files are read and checked: a root
certificate if one is given, and a client certificate with its key if both are given. A file
counts as a certificate when it holds an armoured block of that label around one complete
DER sequence; signatures and dates are the business of the handshake.
-/

/-- The lines of a file's text, without blanks at their ends. -/
def armourLines (bytes : List UInt8) : List (List Char) :=
  (Text.lines (Text.Utf8.decodeLossy bytes).toList).map fun line =>
    (Text.trimStart line.reverse).reverse

/-- The line that opens or closes an armoured block. -/
def armourLine (word label : String) : List Char :=
  ("-----" ++ word ++ " " ++ label ++ "-----").toList

/-- The bytes of the first armoured block with a label. -/
def armoured? (label : String) (lines : List (List Char)) : Option (List UInt8) :=
  let opening := armourLine "BEGIN" label
  let closing := armourLine "END" label
  let inside := (lines.dropWhile (· != opening)).drop 1
  if inside.contains closing then
    Base64.decode? (inside.takeWhile (· != closing)).flatten
  else none

/-- The length that a DER header announces, and what follows the header. -/
def derLength? : List UInt8 → Option (Nat × List UInt8)
  | [] => none
  | first :: rest =>
    if first.toNat < 0x80 then some (first.toNat, rest)
    else
      let count := first.toNat - 0x80
      if count = 0 || rest.length < count then none
      else some ((rest.take count).foldl (fun value byte => value * 256 + byte.toNat) 0,
        rest.drop count)

/-- Whether bytes are exactly one DER sequence. -/
def isDerSequence : List UInt8 → Bool
  | 0x30 :: rest =>
    match derLength? rest with
    | some (length, content) => length = content.length && length ≠ 0
    | none => false
  | _ => false

/-- The labels under which a certificate may be armoured. -/
def certificateLabels : List String :=
  ["CERTIFICATE", "X509 CERTIFICATE", "TRUSTED CERTIFICATE"]

/-- Whether a file holds a certificate. -/
def holdsCertificate (bytes : List UInt8) : Bool :=
  let lines := armourLines bytes
  certificateLabels.any fun label => (armoured? label lines).any isDerSequence

/-- Whether a file holds a private key and starts with it. -/
def holdsPrivateKey (bytes : List UInt8) : Bool :=
  let lines := armourLines bytes
  lines.head? = some (armourLine "BEGIN" "PRIVATE KEY") &&
    (armoured? "PRIVATE KEY" lines).any isDerSequence

/-- Read one of the files. -/
def readPem (tree : FileTree) (what path : String) : Except Error (List UInt8) :=
  match tree.read path with
  | .ok bytes => .ok bytes
  | .error cause =>
    .error (.connection ("Failed to read " ++ what ++ " " ++ path ++ ": " ++ cause.message) false)

/-- Check the root certificate, if one is given. -/
def checkRoot (tree : FileTree) : Option String → Except Error Unit
  | none => .ok ()
  | some path =>
    match readPem tree "root certificate" path with
    | .error error => .error error
    | .ok bytes =>
      if holdsCertificate bytes then .ok ()
      else .error (.connection "Failed to parse root certificate" true)

/-- Check the client certificate and its key, if both are given. -/
def checkClient (tree : FileTree) : Option String → Option String → Except Error Unit
  | some cert, some key =>
    match readPem tree "client certificate" cert with
    | .error error => .error error
    | .ok cert =>
      match readPem tree "client key" key with
      | .error error => .error error
      | .ok key =>
        if holdsPrivateKey key && holdsCertificate cert then .ok ()
        else .error (.connection "Failed to load client certificate" true)
  | _, _ => .ok ()

/-- Check the files of a connection; without protection none is read. -/
def checkFiles (tree : FileTree) (ssl : SslSettings) : Except Error Unit :=
  if ssl.mode.asksForTls then
    match checkRoot tree ssl.rootCert with
    | .error error => .error error
    | .ok () => checkClient tree ssl.cert ssl.key
  else .ok ()

end PgConsole.Wire
