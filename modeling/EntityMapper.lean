import EntityMapper.Main
import EntityMapper.Naming.Identifier
import EntityMapper.Proofs.Command.ExitCode
import EntityMapper.Proofs.File.Scan
import EntityMapper.Proofs.Sql.RoundTrip
import EntityMapper.Proofs.Sql.Tables
import EntityMapper.Proofs.Watch.Failures
import EntityMapper.Proofs.Watch.Interleaving
import EntityMapper.Proofs.Java.Annotations
import EntityMapper.Proofs.Java.Members
import EntityMapper.Proofs.Conversion.Changes
import EntityMapper.Proofs.Conversion.Containment
import EntityMapper.Proofs.Conversion.Overwriting
import EntityMapper.Proofs.Conversion.Printing
import EntityMapper.Proofs.Java.Agreement
import EntityMapper.Proofs.Naming.Capitals
import EntityMapper.Proofs.Naming.Collisions
import EntityMapper.Proofs.Sql.LetterCase
import EntityMapper.Proofs.Sql.Members
import EntityMapper.Proofs.Sql.Names
import EntityMapper.Proofs.Pattern.Phrases
import EntityMapper.Proofs.Sql.Edits
import EntityMapper.Proofs.Sql.Literals
import EntityMapper.Proofs.Command.FrontEnds
import EntityMapper.Proofs.Conversion.Repetition
import EntityMapper.Proofs.Sql.Tiling
import EntityMapper.Proofs.Watch.Readings
import EntityMapper.Proofs.Pattern.Lookbehind
import EntityMapper.Proofs.Sql.CommentedTexts
import EntityMapper.Proofs.Sql.Clauses
import EntityMapper.Proofs.Sql.Refilling
import EntityMapper.Proofs.Sql.QuotedNames
import EntityMapper.Proofs.Sql.DigitNames
import EntityMapper.Proofs.Sql.Headers
import EntityMapper.Proofs.Naming.Spellings
import EntityMapper.Proofs.Java.Mapping
import EntityMapper.Proofs.Java.Families
import EntityMapper.Proofs.Java.Imports
import EntityMapper.Proofs.File.Directories
import EntityMapper.Proofs.Watch.Sessions
import EntityMapper.Proofs.Naming.Partition
import EntityMapper.Proofs.Sql.Remarks
