import NativeMethod.Compilation
import NativeMethod.Proofs.Allocation
import NativeMethod.Proofs.ArrayBuilding
import NativeMethod.Proofs.BackingVariables
import NativeMethod.Proofs.BindingComposition
import NativeMethod.Proofs.BindingSteps
import NativeMethod.Proofs.BodyHistory
import NativeMethod.Proofs.BoundParameters
import NativeMethod.Proofs.CaughtFailures
import NativeMethod.Proofs.CompiledMethods
import NativeMethod.Proofs.Contexts
import NativeMethod.Proofs.Conversions
import NativeMethod.Proofs.DeclarationPartition
import NativeMethod.Proofs.DeclarationSteps
import NativeMethod.Proofs.DeclaredVariables
import NativeMethod.Proofs.Emissions
import NativeMethod.Proofs.EqualLiterals
import NativeMethod.Proofs.ErrorPlaces
import NativeMethod.Proofs.Failures
import NativeMethod.Proofs.FetchedArguments
import NativeMethod.Proofs.FrameRequests
import NativeMethod.Proofs.FunctionScope
import NativeMethod.Proofs.Hash.SinglePieces
import NativeMethod.Proofs.Identifiers
import NativeMethod.Proofs.InactiveFacts
import NativeMethod.Proofs.IndexedTables
import NativeMethod.Proofs.Initializations
import NativeMethod.Proofs.InstanceGuards
import NativeMethod.Proofs.IntegerDefaults
import NativeMethod.Proofs.LineOrder
import NativeMethod.Proofs.Literals.Delimiters
import NativeMethod.Proofs.Literals.Doubles
import NativeMethod.Proofs.Literals.Integers
import NativeMethod.Proofs.Literals.Reading
import NativeMethod.Proofs.Literals.Strings
import NativeMethod.Proofs.LocalChanges
import NativeMethod.Proofs.ManagedFrame
import NativeMethod.Proofs.MangledNames
import NativeMethod.Proofs.MaterialisedDefaults
import NativeMethod.Proofs.MissingReturns
import NativeMethod.Proofs.MutationProviders
import NativeMethod.Proofs.NullInitializers
import NativeMethod.Proofs.OperandTypes
import NativeMethod.Proofs.Outcomes
import NativeMethod.Proofs.OwnValues
import NativeMethod.Proofs.Payloads
import NativeMethod.Proofs.Prologue.Defaults
import NativeMethod.Proofs.Prologue.Execution
import NativeMethod.Proofs.Prologue.Guards
import NativeMethod.Proofs.Prologue.Lines
import NativeMethod.Proofs.Prologue.Parameters
import NativeMethod.Proofs.Prologue.Tests
import NativeMethod.Proofs.Receipts
import NativeMethod.Proofs.ScopedExecution
import NativeMethod.Proofs.SeededVariables
import NativeMethod.Proofs.Separation
import NativeMethod.Proofs.SharedSink
import NativeMethod.Proofs.StringDefaults
import NativeMethod.Proofs.TableHistory
import NativeMethod.Proofs.TableInvariants
import NativeMethod.Proofs.UnbrokenLines
import NativeMethod.Proofs.UnusedVariables
import NativeMethod.Proofs.UseCounts
import NativeMethod.Proofs.WellFormedParameters
