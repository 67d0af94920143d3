import ILTree.Inst.Dump
import ILTree.Proofs.Derived
import ILTree.Proofs.Formula
import ILTree.Proofs.Inst.Equivalence
import ILTree.Proofs.Inst.Field
import ILTree.Proofs.Inst.Readable
import ILTree.Proofs.Inst.Similar
import ILTree.Proofs.Inst.Walk
import ILTree.Proofs.Scope.History
import ILTree.Proofs.Scope.Parameters
import ILTree.Proofs.Scope.Receiver
import ILTree.Proofs.Shape.Access
import ILTree.Proofs.Shape.Chain
import ILTree.Proofs.Shape.Congruence
import ILTree.Proofs.Shape.Exit
import ILTree.Proofs.Shape.Family
import ILTree.Proofs.Shape.FieldAccess
import ILTree.Proofs.Shape.Forms
import ILTree.Proofs.Shape.Local
import ILTree.Proofs.Shape.Names
import ILTree.Proofs.Shape.Negation
import ILTree.Proofs.Shape.Position
import ILTree.Proofs.Token
import ILTree.Shape.Catalogue
