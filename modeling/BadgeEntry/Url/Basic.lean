import BadgeEntry.Url.Host

/-!
# Addresses

An address has a scheme, and then either an authority with a path below it, or a
path alone.  A path is rooted, a list of segments each after a slash, or it is a
bare text without a hierarchy, as in `mailto:`.  Query and fragment may follow;
an empty one differs from a missing one.

Two addresses are the same when they are written the same.

## Main definitions

* `Authority`, `Path`, `Address` — the parts and the whole.
* `Kind`, `kindOf` — the schemes of the web, of files, and all others.
* `Address.render` — an address as it is written.
-/

namespace BadgeEntry.Url

open Decimal

/-- The kinds of schemes, which differ in how an address is read. -/
inductive Kind where
  /-- A scheme of the web: there is a host, and a backslash is a slash. -/
  | web
  /-- The scheme `file`. -/
  | file
  /-- Any other scheme. -/
  | other
  deriving DecidableEq, Repr

/-- The schemes of the web with the ports that are left out. -/
def webPorts : List (String × Nat) :=
  [("http", 80), ("https", 443), ("ws", 80), ("wss", 443), ("ftp", 21)]

/-- The kind of a scheme. -/
def kindOf (scheme : String) : Kind :=
  if (webPorts.lookup scheme).isSome then .web
  else if scheme = "file" then .file
  else .other

/-- Whether a backslash counts as a slash. -/
def Kind.isSpecial : Kind → Bool
  | .web => true
  | .file => true
  | .other => false

/-- User information, host and port. -/
structure Authority where
  /-- Name and password as they are written, empty if there are none. -/
  userinfo : List Char
  /-- The host. -/
  host : Host
  /-- The port, if it is not the usual one of the scheme. -/
  port : Option Nat
  deriving DecidableEq, Repr, Inhabited

/-- A path. -/
inductive Path where
  /-- Segments, each after a slash. -/
  | rooted (segments : List (List Char))
  /-- A text without a hierarchy. -/
  | rootless (text : List Char)
  deriving DecidableEq, Repr, Inhabited

/-- An address. -/
structure Address where
  /-- The scheme in lower case. -/
  scheme : String
  /-- The authority, if there is one. -/
  authority : Option Authority
  /-- The path. -/
  path : Path
  /-- The text after the question mark. -/
  query : Option (List Char)
  /-- The text after the number sign. -/
  fragment : Option (List Char)
  deriving DecidableEq, Repr, Inhabited

/-- An authority as it is written. -/
def Authority.render (a : Authority) : List Char :=
  (if a.userinfo.isEmpty then [] else a.userinfo ++ ['@']) ++ a.host.render ++
    match a.port with
    | some port => ':' :: digits port
    | none => []

/-- A path as it is written. -/
def Path.render : Path → List Char
  | .rooted segments => segments.flatMap ('/' :: ·)
  | .rootless text => text

/-- Whether a path would be taken for an authority, if none stood before it. -/
def Path.opensWithTwoSlashes : Path → Bool
  | .rooted ([] :: _ :: _) => true
  | _ => false

/-- What stands between the colon of the scheme and the path. -/
def Address.renderAuthority (u : Address) : List Char :=
  match u.authority with
  | some a => '/' :: '/' :: a.render
  | none => if u.path.opensWithTwoSlashes then ['/', '.'] else []

/-- An optional part after its mark. -/
def renderPart (mark : Char) : Option (List Char) → List Char
  | some text => mark :: text
  | none => []

/-- An address as it is written. -/
def Address.render (u : Address) : List Char :=
  u.scheme.toList ++ ':' :: u.renderAuthority ++ u.path.render ++
    renderPart '?' u.query ++ renderPart '#' u.fragment

/-- An address as a string. -/
def Address.text (u : Address) : String :=
  String.ofList u.render

/-- Two addresses are the same when they are written the same. -/
instance : BEq Address := ⟨fun u v => u.render == v.render⟩

/-- The kind of an address. -/
def Address.kind (u : Address) : Kind :=
  kindOf u.scheme

/-- The address as it is asked for: user information and fragment stay with the
one who asks. -/
def Address.requested (u : Address) : Address :=
  { u with
    authority := u.authority.map fun a => { a with userinfo := [] }
    fragment := none }

/-- Host and port, with the usual port of the scheme written out. -/
def Address.hostAndPort (u : Address) : String :=
  match u.authority with
  | none => ""
  | some a =>
    let port := a.port.getD ((webPorts.lookup u.scheme).getD 0)
    String.ofList (a.host.render ++ ':' :: digits port)

end BadgeEntry.Url
