import Causeway.Contracts
import Causeway.Layout.Catalog
import Causeway.ObjectType

/-!
# Causeway.Demo.Signatures

The functions of the demo bridge in both directions, and the contracts made of them.
-/

namespace Causeway
namespace Demo

/-- A handle of an object type as an argument or result. -/
def handleKind (t : ObjectType) (p : Passing) : Kind := .handle t.name p

/-- A declared struct as an argument or result. -/
def sharedKind (s : SharedType) : Kind := .shared s.name s.fingerprint

/-- A constructor of the demo's foreign object. -/
def constructorSignature (name : String) : Signature where
  namespacePath := "demo"
  name := name
  callee := .foreign
  args := [("name", .text)]
  returns := handleKind .thingC .ownership
  fallible := true

def makeDemoSignature : Signature := constructorSignature "make_demo"

def makeDemoRejectingSignature : Signature := constructorSignature "make_demo_rejecting"

def makeDemoExhaustedSignature : Signature := constructorSignature "make_demo_exhausted"

def getNameSignature : Signature where
  namespacePath := "demo"
  name := "get_name"
  callee := .foreign
  args := [("thing", handleKind .thingC .reference)]
  returns := .text

def doThingSignature : Signature where
  namespacePath := "demo"
  name := "do_thing"
  callee := .foreign
  args := [("state", sharedKind .sharedThing)]
  returns := .foreignBytes
  fallible := true

def describeRSignature : Signature where
  namespacePath := "demo"
  name := "describe_r"
  callee := .foreign
  args := [("thing", handleKind .thingR .reference)]
  returns := .scalar .bool
  fallible := true

def sumBytesSignature : Signature where
  namespacePath := "demo"
  name := "sum_bytes"
  callee := .foreign
  args := [("bytes", .bytes)]
  returns := .scalar .u64

def copyBytesSignature : Signature where
  namespacePath := "demo"
  name := "copy_bytes"
  callee := .foreign
  args := [("bytes", .bytes)]
  returns := .foreignBytes
  fallible := true

def applySignature : Signature where
  namespacePath := "demo"
  name := "apply"
  callee := .foreign
  args := [("callback", .callback [.scalar .i32]), ("times", .scalar .i32)]
  returns := .scalar .bool
  fallible := true

def listenSignature : Signature where
  namespacePath := "demo"
  name := "listen"
  callee := .foreign
  args := [("total", .scalar .usize), ("releases", .scalar .usize)]
  returns := .callback [.scalar .u32]

def sampleEchoSignature : Signature where
  namespacePath := "demo"
  name := "sample_echo"
  callee := .foreign
  args := [("sample", sharedKind .sample)]
  returns := sharedKind .sample

def sampleChecksumSignature : Signature where
  namespacePath := "demo"
  name := "sample_checksum"
  callee := .foreign
  args := [("sample", sharedKind .sample)]
  returns := .scalar .u64

def thingRNewSignature : Signature where
  namespacePath := "demo"
  name := "thing_r_new"
  callee := .host
  args := [("value", .scalar .i32), ("name", .text), ("drops", .scalar .usize)]
  returns := handleKind .thingR .ownership
  fallible := true

def thingRValueSignature : Signature where
  namespacePath := "demo"
  name := "thing_r_value"
  callee := .host
  args := [("thing", handleKind .thingR .reference)]
  returns := .scalar .i32
  fallible := true

def thingRNameSignature : Signature where
  namespacePath := "demo"
  name := "thing_r_name"
  callee := .host
  args := [("thing", handleKind .thingR .reference)]
  returns := .ownedText
  fallible := true

def printRSignature : Signature where
  namespacePath := "demo"
  name := "print_r"
  callee := .host
  args := [("thing", handleKind .thingR .reference)]
  returns := .scalar .bool
  fallible := true

/-- Every function of the demo. -/
def signatures : List Signature :=
  [ makeDemoSignature, makeDemoRejectingSignature, makeDemoExhaustedSignature, getNameSignature,
    doThingSignature, describeRSignature, sumBytesSignature, copyBytesSignature, applySignature,
    listenSignature, sampleEchoSignature, sampleChecksumSignature, thingRNewSignature,
    thingRValueSignature, thingRNameSignature, printRSignature ]

/-- The contracts of the demo. -/
def contracts : Except Contracts.Refusal Contracts := Contracts.empty.registerAll signatures

end Demo
end Causeway
