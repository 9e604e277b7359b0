import InterfaceAddress.Proofs.Session.Loading
import InterfaceAddress.Session.Records
import Mathlib

/-! # What a session can be told to do

An operation on addresses and descriptors answers a question from its inputs
alone, reads a clock, or tries to give a descriptor or a record. A command is an
operation, a request to a log, a question about the configuration or a change of
what the session holds. All but the changes at most load the configuration
(`Command.onlyLoads`).
-/

namespace InterfaceAddress

open Wire

/-! ### Questions -/

/-- What is answered from the inputs alone. -/
inductive Question where
  | readAddress (text : String) (collapsing : Bool)
  | addressOfOctets (octets : List UInt8) (collapsing : Bool)
  | octetAt (address : Address) (position : Binary64)
  | addressText (address : Address)
  | addressKinds (address : Address)
  | addressScope (address : Address)
  | addressHash (address : Address)
  | areSameAddresses (address other : Address)
  | netmaskPrefix (text : String)
  | scopeName (code : Binary64)
  | violation (lifetimes : Lifetimes)
  | effectiveFlags (lifetimes : Lifetimes) (stored now : Binary64)
  | descriptorText (descriptor : Descriptor)
  | descriptorValue (descriptor : Descriptor)
  | descriptorHash (descriptor : Descriptor)
  | areEqual (descriptor other : Descriptor)
  | haveSameAddress (descriptor other : Descriptor)
  | recordLength (layout : Layout) (addressLength : Binary64)

namespace Question

def Answer : Question → Type
  | readAddress .. | addressOfOctets .. => Option Address
  | octetAt .. => UInt8
  | addressText .. | scopeName .. | descriptorText .. => String
  | addressKinds .. => List Bool
  | addressScope .. => Scope
  | addressHash .. | descriptorHash .. => BitVec 32
  | areSameAddresses .. | areEqual .. | haveSameAddress .. => Bool
  | netmaskPrefix .. => Option Nat
  | violation .. => Option LifetimeViolation
  | effectiveFlags .. | recordLength .. => Binary64
  | descriptorValue .. => Value

def answer : (question : Question) → question.Answer
  | readAddress text collapsing => Address.read? text collapsing
  | addressOfOctets octets collapsing => Address.ofOctets? octets collapsing
  | octetAt address position => address.octetAt position
  | addressText address => address.text
  | addressKinds address =>
    [address.isV4, address.isV6, address.isUnspecified, address.isLoopback, address.isLinkLocal,
      address.isSiteLocal, address.isMulticast, address.isUniqueLocal, address.isMapped]
  | addressScope address => address.scope
  | addressHash address => address.hash
  | areSameAddresses address other => decide (address = other)
  | netmaskPrefix text => Netmask.prefixLength? text
  | scopeName code => Scope.describe code
  | violation lifetimes => lifetimes.violation?
  | effectiveFlags lifetimes stored now => lifetimes.effectiveFlags stored now
  | descriptorText descriptor => descriptor.text
  | descriptorValue descriptor => descriptor.toValue
  | descriptorHash descriptor => descriptor.hash
  | areEqual descriptor other => descriptor.equals other
  | haveSameAddress descriptor other => descriptor.isSameAddressAs other
  | recordLength layout addressLength => layout.roundedLength addressLength

end Question

/-- A source of the present instant: the monotonic clock of the session or one that is stopped. -/
inductive Clock where
  | monotonic
  | fixed (now : Binary64)

def Clock.read : Clock → Action Binary64
  | monotonic => return (← Action.session).now
  | fixed now => return now

/-! ### Attempts -/

/-- An operation that gives an error where its input is not acceptable. -/
inductive Attempt where
  | create (draft : Draft) (choice : Option Bool)
  | parse (text : String) (state : DraftState) (choice : Option Bool)
  | convert (record : Value) (state : DraftState) (choice : Option Bool)
  | encode (descriptor : Descriptor) (layout : Layout)
  | decode (octets : List UInt8) (choice : Option Bool)

namespace Attempt

/-- What an attempt gives if it succeeds. -/
def Product : Attempt → Type
  | create .. | parse .. | convert .. => Descriptor
  | encode .. => List UInt8
  | decode .. => Descriptor × Layout

/-- What an attempt gives if it does not succeed. -/
def Error : Attempt → Type
  | create .. | parse .. | convert .. => Rejection
  | encode .. => EncodeError
  | decode .. => DecodeError

def action : (attempt : Attempt) → Action (Except attempt.Error attempt.Product)
  | create draft choice => draft.tryCreate choice
  | parse text state choice => Descriptor.tryParse text state choice
  | convert record state choice => Descriptor.tryConvert record state choice
  | encode descriptor layout => descriptor.tryEncode layout
  | decode octets choice => tryDecode octets choice

/-- The failure of the form of an attempt that fails on an error. -/
def failure : (attempt : Attempt) → attempt.Error → Failure
  | create .. | parse .. | convert .. => .rejected
  | encode .. => .notEncoded
  | decode .. => .notDecoded

theorem isRoutine (attempt : Attempt) : attempt.action.IsRoutine := by
  cases attempt with
  | create draft choice => exact draft.tryCreate_isRoutine choice
  | parse text state choice => exact Draft.tryCreate_isRoutine _ choice
  | convert record state choice => exact Descriptor.tryConvert_isRoutine record state choice
  | encode descriptor layout => exact descriptor.tryEncode_isRoutine layout
  | decode octets choice => exact tryDecode_isRoutine octets choice

theorem onlyLoads (attempt : Attempt) : attempt.action.OnlyLoads := attempt.isRoutine.onlyLoads

theorem failure_ne_config (attempt : Attempt) (error : attempt.Error) (missing : ConfigError) :
    attempt.failure error ≠ .config missing := by
  cases attempt <;> exact nofun

end Attempt

/-! ### Operations -/

/-- An operation on addresses, lifetimes, scopes, descriptors, encoded records and records of the
operating system. To insist is to attempt and to fail on an error. -/
inductive Operation where
  | ask (question : Question)
  | readClock (clock : Clock)
  | flags (descriptor : Descriptor) (clock : Clock)
  | preference (descriptor : Descriptor) (clock : Clock)
  | attempt (tried : Attempt)
  | insist (tried : Attempt)
  | snapshot (source : InterfaceSource) (choice : Option Bool)

namespace Operation

def Answer : Operation → Type
  | ask question => question.Answer
  | readClock _ | flags .. => Binary64
  | preference .. => Bool
  | attempt tried => Except tried.Error tried.Product
  | insist tried => tried.Product
  | snapshot .. => List (String × List Descriptor)

def action : (operation : Operation) → Action operation.Answer
  | ask question => pure question.answer
  | readClock clock => clock.read
  | flags descriptor clock => do return descriptor.flagsAt (← clock.read)
  | preference descriptor clock => do return descriptor.isGlobalPreferred (← clock.read)
  | attempt tried => tried.action
  | insist tried => tried.action.orFail tried.failure
  | snapshot source choice => Snapshot.take source choice

end Operation

theorem Clock.read_isRoutine (clock : Clock) : clock.read.IsRoutine := by
  cases clock with
  | monotonic => exact .clock
  | fixed now => exact .pure now

theorem Operation.isRoutine (operation : Operation) : operation.action.IsRoutine := by
  cases operation with
  | ask question => exact .pure question.answer
  | readClock clock => exact clock.read_isRoutine
  | flags descriptor clock => exact .bind clock.read_isRoutine fun _ => .pure _
  | preference descriptor clock => exact .bind clock.read_isRoutine fun _ => .pure _
  | attempt tried => exact tried.isRoutine
  | insist tried => exact tried.isRoutine.orFail tried.failure_ne_config
  | snapshot source choice => exact Snapshot.take_isRoutine source

theorem Operation.onlyLoads (operation : Operation) : operation.action.OnlyLoads :=
  operation.isRoutine.onlyLoads

/-! ### Commands -/

/-- Everything that can be done in a session. -/
inductive Command where
  | operate (operation : Operation)
  | write (logger : Log.Logger) (level : Log.Level) (message : String) (context : Members)
  | writeFault (logger : Log.Logger) (level : Log.Level) (message : String)
      (fault : Log.Fault) (context : Members)
  | askLevel (logger : Log.Logger) (level : Log.Level)
  | setSink (sink : Log.Sink)
  | askConfig
  | askLoaded
  | resetConfig
  | installConfig (overrides : Value)
  | setVariables (changes : List (String × Option String))
  | setWallTime (time : Int)
  | setMonotonicTime (time : Int)

namespace Command

def Answer : Command → Type
  | operate operation => operation.Answer
  | askLevel .. | askLoaded => Bool
  | askConfig | installConfig _ => Config
  | write .. | writeFault .. | setSink _ | resetConfig | setVariables _ | setWallTime _
  | setMonotonicTime _ => Unit

def action : (command : Command) → Action command.Answer
  | operate operation => operation.action
  | write logger level message context => logger.write level message context
  | writeFault logger level message fault context =>
    logger.writeFault level message fault context
  | askLevel logger level => logger.isEnabled level
  | setSink sink => Session.setSink sink
  | askConfig => Session.settings
  | askLoaded => Session.isLoaded
  | resetConfig => Session.forget
  | installConfig overrides => Session.installOverrides overrides
  | setVariables changes => Session.setVariables changes
  | setWallTime time => Session.setWallTime time
  | setMonotonicTime time => Session.setMonotonicTime time

/-- A command that assigns nothing in the session. -/
def IsPassive : Command → Prop
  | operate _ | write .. | writeFault .. | askLevel .. | askConfig | askLoaded => True
  | _ => False

theorem onlyLoads {command : Command} (passive : command.IsPassive) :
    command.action.OnlyLoads := by
  cases command with
  | operate operation => exact operation.onlyLoads
  | write logger level message context => exact .write ..
  | writeFault logger level message fault context =>
    exact (logger.writeFault_isRoutine level message fault context).onlyLoads
  | askLevel logger level => exact .bind .settings fun _ => .pure _
  | askConfig => exact .settings
  | askLoaded => exact .bind .session fun _ => .pure _
  | _ => exact passive.elim

end Command

/-- The session after a sequence of commands, whether they succeed or fail. -/
def Session.afterAll (session : Session) (commands : List Command) : Session :=
  commands.foldl (fun session command => (command.action session).session) session

end InterfaceAddress
