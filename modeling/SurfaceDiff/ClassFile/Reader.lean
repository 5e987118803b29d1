import SurfaceDiff.ClassFile.ConstantPool
import SurfaceDiff.Surface

/-!
Contract: the class declaration that a class file holds.

Owns: the order of the sections and the resolution of names.
Does not own: fields, interfaces and attributes other than `Code`, which are skipped unread.

Indices are resolved where they stand, so of two faults the one that comes first in the file is
reported. Bytes after the last method are never looked at.
-/

namespace SurfaceDiff.ClassFile

open Text

def magic : List UInt8 := [0xCA, 0xFE, 0xBA, 0xBE]

def skipAttribute : Reader Unit := do
  Reader.skip 2
  Reader.skip (← Reader.number 4)

def skipAttributes : Reader Unit := do
  let _ ← Reader.counted skipAttribute

def skipField : Reader Unit := do
  Reader.skip 6
  skipAttributes

/-- An attribute of a method, by name. -/
structure Attribute where
  name : CodePoints
  payload : List UInt8

def readAttribute (pool : ConstantPool) : Reader Attribute := do
  let name ← pool.readText
  return ⟨name, ← Reader.block (← Reader.number 4)⟩

def codeAttributeName : CodePoints :=
  .ofString "Code"

/-- The instructions in the payload of a `Code` attribute, behind the two stack limits. -/
def readInstructions : Reader (List UInt8) := do
  Reader.skip 4
  Reader.block (← Reader.number 4)

/-- Reads the attributes of a method; the first one named `Code` gives the instructions. -/
def readCode (pool : ConstantPool) : Nat → Option (List UInt8) → Reader (Option (List UInt8))
  | 0, code => return code
  | count + 1, code => do
    let item ← readAttribute pool
    if item.name = codeAttributeName ∧ code = none then
      let instructions ← readInstructions.run item.payload
      readCode pool count (some instructions)
    else
      readCode pool count code

def readMethod (pool : ConstantPool) : Reader Method := do
  let accessFlags ← Reader.number 2
  let name ← pool.readText
  let descriptor ← pool.readText
  let code ← readCode pool (← Reader.number 2) none
  return ⟨name, descriptor, accessFlags, code⟩

/-- Index 0 stands for no superclass. -/
def readSuperName (pool : ConstantPool) : Reader (Option CodePoints) := do
  let index ← Reader.number 2
  if index = 0 then
    return none
  else
    return some (← pool.className index)

def skipInterfaces : Reader Unit := do
  Reader.skip (2 * (← Reader.number 2))

/-- The methods, behind the interfaces and the fields. -/
def readMethods (pool : ConstantPool) : Reader (List Method) := do
  skipInterfaces
  let _ ← Reader.counted skipField
  Reader.counted (readMethod pool)

/-- What a class file says of its class; any sequence of code points can stand as the name. -/
structure Contents where
  name : CodePoints
  accessFlags : Int
  superName : Option CodePoints
  methods : List Method

def readContents : Reader Contents := do
  Reader.skip 8
  let pool ← ConstantPool.read
  let accessFlags ← Reader.number 2
  let name ← pool.readClassName
  let superName ← readSuperName pool
  return ⟨name, accessFlags, superName, ← readMethods pool⟩

/-- A class is named by a string, which holds no lone surrogate and at least one character. -/
def Contents.toClassDecl (contents : Contents) : Except Rejection ClassDecl :=
  match contents.name.toString? with
  | some name => ClassDecl.ofFields name contents.accessFlags contents.superName contents.methods
  | none => .error ⟨.classDecl, [⟨"name", .loneSurrogate⟩]⟩

def readClass : Reader ClassDecl := do
  match (← readContents).toClassDecl with
  | .ok decl => return decl
  | .error cause => throw (.rejected cause)

/-- The class that the bytes declare. -/
def parse (bytes : List UInt8) : Except Error ClassDecl :=
  if magic.isPrefixOf bytes then
    readClass.run bytes
  else
    .error (.format .badMagic)

end SurfaceDiff.ClassFile
